import Mathlib

/-!
# Rows of tables

Rows computed with their positions: what depends on the elements alone, and
what on the positions alone. Rows found by a key, which finds the one row where
no two share it. Rows in blocks, each with a key of its own.
-/

namespace Paic.Rows

variable {α β γ κ : Type*}

-- ---------------------------------------------------------------------------
-- By position
-- ---------------------------------------------------------------------------

theorem mem_mapIdx {f : Nat → α → β} {l : List α} (h : b ∈ l.mapIdx f) :
    ∃ i, ∃ a ∈ l, b = f i a := by
  obtain ⟨i, hi, rfl⟩ := List.mem_mapIdx.mp h
  exact ⟨i, l[i], List.getElem_mem hi, rfl⟩

theorem mem_zipIdx {l : List α} (h : (a, i) ∈ l.zipIdx) : a ∈ l :=
  List.mem_of_getElem? (List.mem_zipIdx_iff_getElem?.mp h)

/-- What depends on the elements alone. -/
theorem map_mapIdx_mem {f : Nat → α → β} {g : β → γ} {g' : α → γ} {l : List α}
    (h : ∀ i, ∀ a ∈ l, g (f i a) = g' a) : (l.mapIdx f).map g = l.map g' := by
  refine List.ext_getElem (by simp) fun i hi _ => ?_
  simp [h]

theorem map_mapIdx {f : Nat → α → β} {g : β → γ} {g' : α → γ} (h : ∀ i a, g (f i a) = g' a)
    (l : List α) : (l.mapIdx f).map g = l.map g' :=
  map_mapIdx_mem fun i a _ => h i a

/-- What depends on the positions alone. -/
theorem map_mapIdx_range {f : Nat → α → β} {g : β → γ} {g' : Nat → γ}
    (h : ∀ i a, g (f i a) = g' i) (l : List α) :
    (l.mapIdx f).map g = (List.range l.length).map g' := by
  refine List.ext_getElem (by simp) fun i hi _ => ?_
  simp [h]

/-- What comes out with the row it is from, where every row comes out. -/
theorem map_fst_filterMap {f : α → Option β} {l : List α} (h : ∀ a ∈ l, ∃ b, f a = some b) :
    (l.filterMap fun a => (f a).map (a, ·)).map Prod.fst = l := by
  induction l with
  | nil => rfl
  | cons a rest ih =>
    obtain ⟨b, hb⟩ := h a List.mem_cons_self
    rw [List.filterMap_cons, hb, Option.map_some]
    exact congrArg (a :: ·) (ih fun a ha => h a (List.mem_cons_of_mem _ ha))

/-- What was computed with the positions, without them. -/
theorem forall₂_zipIdx {R : α × Nat → β → Prop} {l : List α} {l' : List β} {start : Nat}
    (h : List.Forall₂ R (l.zipIdx start) l') : List.Forall₂ (fun a b => ∃ i, R (a, i) b) l l' := by
  induction l generalizing l' start with
  | nil =>
    rw [List.forall₂_nil_left_iff.mp h]
    exact .nil
  | cons a rest ih =>
    rw [List.zipIdx_cons] at h
    obtain ⟨b, rest', hb, hrest, rfl⟩ := List.forall₂_cons_left_iff.mp h
    exact .cons ⟨start, hb⟩ (ih hrest)

theorem forall₂_mem_right {R : α → β → Prop} {l : List α} {l' : List β} (h : List.Forall₂ R l l')
    (hb : b ∈ l') : ∃ a ∈ l, R a b := by
  induction h with
  | nil => exact absurd hb List.not_mem_nil
  | cons hab _ ih =>
    rcases List.mem_cons.mp hb with rfl | hb
    · exact ⟨_, List.mem_cons_self, hab⟩
    · obtain ⟨a, ha, hr⟩ := ih hb
      exact ⟨a, List.mem_cons_of_mem _ ha, hr⟩

theorem forall₂_map_eq {R : α → β → Prop} {f : α → γ} {g : β → γ} {l : List α} {l' : List β}
    (h : List.Forall₂ R l l') (hR : ∀ a b, R a b → g b = f a) : l'.map g = l.map f := by
  induction h with
  | nil => rfl
  | cons hab _ ih => rw [List.map_cons, List.map_cons, hR _ _ hab, ih]

/-- Lists of a length are the two sides of their pairs. -/
theorem zip_sides {l : List α} {l' : List β} (h : l.length = l'.length) :
    (l.zip l').map Prod.fst = l ∧ (l.zip l').map Prod.snd = l' :=
  ⟨List.map_fst_zip (Nat.le_of_eq h), List.map_snd_zip (Nat.le_of_eq h.symm)⟩

-- ---------------------------------------------------------------------------
-- By key
-- ---------------------------------------------------------------------------

section
variable [DecidableEq κ] {key : α → κ} {l : List α}

theorem find_key (h : l.find? (fun a => key a = k) = some a) : a ∈ l ∧ key a = k :=
  ⟨List.mem_of_find?_eq_some h, by simpa using List.find?_some h⟩

theorem find_of_mem (ha : a ∈ l) (hkey : key a = k) :
    ∃ b, l.find? (fun a => key a = k) = some b :=
  Option.isSome_iff_exists.mp (List.find?_isSome.mpr ⟨a, ha, decide_eq_true hkey⟩)

theorem find_none (h : l.find? (fun a => key a = k) = none) (ha : a ∈ l) : key a ≠ k := by
  simpa using List.find?_eq_none.mp h a ha

omit [DecidableEq κ] in
theorem eq_of_key (hnodup : (l.map key).Nodup) (ha : a ∈ l) (hb : b ∈ l) (h : key a = key b) :
    a = b :=
  List.inj_on_of_nodup_map hnodup ha hb h

theorem find_eq (hnodup : (l.map key).Nodup) (ha : a ∈ l) (hkey : key a = k) :
    l.find? (fun a => key a = k) = some a := by
  obtain ⟨b, hb⟩ := find_of_mem ha hkey
  obtain ⟨hmem, hbkey⟩ := find_key hb
  rw [hb, eq_of_key hnodup hmem ha (hbkey.trans hkey.symm)]

end

-- ---------------------------------------------------------------------------
-- In blocks
-- ---------------------------------------------------------------------------

/-- Where each block has a key of its own, the elements with a key are its block. -/
theorem flatMap_filter_block [DecidableEq κ] {blocks : List (α × List β)} (key : α → κ)
    (key' : β → κ) (hkey : ∀ block ∈ blocks, ∀ b ∈ block.2, key' b = key block.1)
    (hnodup : (blocks.map fun block => key block.1).Nodup) {block : α × List β}
    (hmem : block ∈ blocks) :
    (blocks.flatMap Prod.snd).filter (fun b => key' b = key block.1) = block.2 := by
  have other : ∀ rest : List (α × List β), (∀ block ∈ rest, ∀ b ∈ block.2, key' b = key block.1) →
      key block.1 ∉ rest.map (fun block => key block.1) →
      (rest.flatMap Prod.snd).filter (fun b => key' b = key block.1) = [] := by
    intro rest hkey hnot
    refine List.filter_eq_nil_iff.mpr fun b hb heq => hnot ?_
    obtain ⟨other, hother, hb⟩ := List.mem_flatMap.mp hb
    rw [← of_decide_eq_true heq, hkey other hother b hb]
    exact List.mem_map.mpr ⟨other, hother, rfl⟩
  induction blocks with
  | nil => exact absurd hmem List.not_mem_nil
  | cons first rest ih =>
    rw [List.map_cons, List.nodup_cons] at hnodup
    rw [List.forall_mem_cons] at hkey
    rw [List.flatMap_cons, List.filter_append]
    rcases List.mem_cons.mp hmem with rfl | hmem
    · rw [other rest hkey.2 hnodup.1, List.append_nil]
      exact List.filter_eq_self.mpr fun b hb => decide_eq_true (hkey.1 b hb)
    · have hfirst : first.2.filter (fun b => key' b = key block.1) = [] := by
        refine List.filter_eq_nil_iff.mpr fun b hb heq => hnodup.1 ?_
        rw [← hkey.1 b hb, of_decide_eq_true heq]
        exact List.mem_map.mpr ⟨block, hmem, rfl⟩
      rw [hfirst, List.nil_append, ih hkey.2 hnodup.2 hmem]

end Paic.Rows
