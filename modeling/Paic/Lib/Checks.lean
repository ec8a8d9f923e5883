import Mathlib

/-!
# Checks that raise

A function that raises on its error paths is an `Except` computation. Each
lemma here reads one success as the facts the computation went through, so
that a proof about a checked function never unfolds the monad.
-/

namespace Paic.Checks

theorem bind_eq_ok {x : Except ε α} {f : α → Except ε β} :
    x >>= f = .ok b ↔ ∃ a, x = .ok a ∧ f a = .ok b := by
  cases x <;> simp [bind, Except.bind]

theorem bind_eq_error {x : Except ε α} {f : α → Except ε β} :
    x >>= f = .error e ↔ x = .error e ∨ ∃ a, x = .ok a ∧ f a = .error e := by
  cases x <;> simp [bind, Except.bind]

theorem pure_eq_ok {a b : α} : (pure a : Except ε α) = .ok b ↔ a = b := by
  simp [pure, Except.pure]

theorem map_eq_ok {f : α → β} (hf : Function.Injective f) {x : Except ε α} :
    f <$> x = .ok (f a) ↔ x = .ok a := by
  cases x <;> simp [Functor.map, Except.map, hf.eq_iff]

theorem pure_ne_error {a : α} : (pure a : Except ε α) ≠ .error e := nofun

@[simp] theorem ok_bind {a : α} {f : α → Except ε β} : (Except.ok a >>= f) = f a := rfl

@[simp] theorem error_bind {e : ε} {f : α → Except ε β} :
    (Except.error e >>= f) = .error e := rfl

/-- `if c: raise e`. -/
def raiseIf (c : Prop) [Decidable c] (e : ε) : Except ε Unit :=
  if c then .error e else .ok ()

theorem raiseIf_ok {c : Prop} [Decidable c] {e : ε} {u : Unit} :
    raiseIf c e = .ok u ↔ ¬ c := by
  unfold raiseIf
  split <;> simp_all

theorem raiseIf_error {c : Prop} [Decidable c] {e e' : ε} :
    raiseIf c e = .error e' ↔ c ∧ e = e' := by
  unfold raiseIf
  split <;> simp_all

theorem raiseIf_neg {c : Prop} [Decidable c] {e : ε} (h : ¬ c) : raiseIf c e = .ok () :=
  raiseIf_ok.mpr h

theorem raiseIf_pos {c : Prop} [Decidable c] {e : ε} (h : c) : raiseIf c e = .error e := by
  simp [raiseIf, h]

/-- A lookup that raises when nothing is found. -/
def need (o : Option α) (e : ε) : Except ε α :=
  match o with
  | some a => .ok a
  | none => .error e

theorem need_ok {o : Option α} {e : ε} {a : α} : need o e = .ok a ↔ o = some a := by
  cases o <;> simp [need]

theorem need_error {o : Option α} {e e' : ε} : need o e = .error e' ↔ o = none ∧ e = e' := by
  cases o <;> simp [need]

/-- `try: x except exc: raise f(exc)`. -/
def reraise (x : Except ε α) (f : ε → ε') : Except ε' α :=
  match x with
  | .ok a => .ok a
  | .error e => .error (f e)

theorem reraise_ok {x : Except ε α} {f : ε → ε'} {a : α} : reraise x f = .ok a ↔ x = .ok a := by
  cases x <;> simp [reraise]

/-- A loop whose body may raise, over a state it carries along. -/
def loop (f : σ → α → Except ε σ) : σ → List α → Except ε σ
  | s, [] => .ok s
  | s, a :: rest => f s a >>= fun s' => loop f s' rest

@[simp] theorem loop_nil {f : σ → α → Except ε σ} : loop f s [] = .ok s := rfl

theorem loop_cons {f : σ → α → Except ε σ} :
    loop f s (a :: rest) = .ok t ↔ ∃ s', f s a = .ok s' ∧ loop f s' rest = .ok t := by
  simp only [loop, bind_eq_ok]

theorem loop_append {f : σ → α → Except ε σ} :
    loop f s (xs ++ ys) = loop f s xs >>= fun s' => loop f s' ys := by
  induction xs generalizing s with
  | nil => rfl
  | cons x xs ih =>
    simp only [List.cons_append, loop]
    cases f s x with
    | error e => rfl
    | ok s' => exact ih

theorem loop_snoc {f : σ → α → Except ε σ} :
    loop f s (xs ++ [a]) = .ok t ↔ ∃ s', loop f s xs = .ok s' ∧ f s' a = .ok t := by
  rw [loop_append, bind_eq_ok]
  refine exists_congr fun s' => and_congr Iff.rfl ?_
  rw [loop_cons]
  simp

/-- A loop that raises has come to a pass that does. -/
theorem loop_error {f : σ → α → Except ε σ} : loop f s xs = .error e ↔
    ∃ ys a zs t, xs = ys ++ a :: zs ∧ loop f s ys = .ok t ∧ f t a = .error e := by
  induction xs generalizing s with
  | nil => simp [loop]
  | cons x xs ih =>
    simp only [loop, bind_eq_error, ih]
    constructor
    · rintro (h | ⟨s', hx, ys, a, zs, t, rfl, ht, ha⟩)
      · exact ⟨[], x, xs, s, rfl, rfl, h⟩
      · exact ⟨x :: ys, a, zs, t, rfl, loop_cons.mpr ⟨s', hx, ht⟩, ha⟩
    · rintro ⟨ys, a, zs, t, hsplit, ht, ha⟩
      cases ys with
      | nil =>
        obtain ⟨rfl, rfl⟩ := List.cons.inj hsplit
        obtain rfl := Except.ok.inj ht
        exact .inl ha
      | cons y ys =>
        obtain ⟨rfl, rfl⟩ := List.cons.inj hsplit
        obtain ⟨s', hx, ht⟩ := loop_cons.mp ht
        exact .inr ⟨s', hx, ys, a, zs, t, rfl, ht, ha⟩

/-- What every pass of the loop keeps holds of the state the loop ends in. -/
theorem loop_inv {f : σ → α → Except ε σ} (I : σ → Prop)
    (hstep : ∀ s a s', I s → f s a = .ok s' → I s') :
    ∀ {s xs t}, I s → loop f s xs = .ok t → I t := by
  intro s xs t hs h
  induction xs generalizing s with
  | nil => simp only [loop_nil, Except.ok.injEq] at h; exact h ▸ hs
  | cons x xs ih =>
    obtain ⟨s', hx, hr⟩ := loop_cons.mp h
    exact ih (hstep s x s' hs hx) hr

/-- A loop that carries nothing along checks every element. -/
theorem loop_unit_ok {f : α → Except ε Unit} :
    loop (fun _ a => f a) () xs = .ok () ↔ ∀ a ∈ xs, f a = .ok () := by
  induction xs with
  | nil => simp
  | cons x xs ih =>
    simp only [loop_cons, List.forall_mem_cons, ← ih]
    exact ⟨fun ⟨_, hx, hr⟩ => ⟨hx, hr⟩, fun ⟨hx, hr⟩ => ⟨(), hx, hr⟩⟩

/-- Every element is computed, one after the other. -/
theorem mapM_ok {f : α → Except ε β} {xs : List α} {ys : List β} :
    xs.mapM f = .ok ys ↔ List.Forall₂ (fun a b => f a = .ok b) xs ys := by
  induction xs generalizing ys with
  | nil =>
    rw [List.forall₂_nil_left_iff]
    exact pure_eq_ok.trans eq_comm
  | cons a rest ih =>
    rw [List.mapM_cons, List.forall₂_cons_left_iff]
    simp only [bind_eq_ok, ih, pure_eq_ok]
    constructor
    · rintro ⟨b, hb, bs, hbs, rfl⟩
      exact ⟨b, bs, hb, hbs, rfl⟩
    · rintro ⟨b, bs, hb, hbs, rfl⟩
      exact ⟨b, hb, bs, hbs, rfl⟩

/-- Every element is computed when each can be. -/
theorem mapM_returns {f : α → Except ε β} {xs : List α} :
    (∃ ys, xs.mapM f = .ok ys) ↔ ∀ a ∈ xs, ∃ b, f a = .ok b := by
  simp only [mapM_ok]
  induction xs with
  | nil => simp
  | cons a rest ih =>
    rw [List.forall_mem_cons, ← ih]
    constructor
    · rintro ⟨ys, hall⟩
      obtain ⟨b, bs, hb, hrest, -⟩ := List.forall₂_cons_left_iff.mp hall
      exact ⟨⟨b, hb⟩, bs, hrest⟩
    · rintro ⟨⟨b, hb⟩, bs, hrest⟩
      exact ⟨b :: bs, .cons hb hrest⟩

theorem mapM_mem {f : α → Except ε β} {xs : List α} {ys : List β} (h : xs.mapM f = .ok ys) :
    b ∈ ys ↔ ∃ a ∈ xs, f a = .ok b := by
  rw [mapM_ok] at h
  induction h with
  | nil => simp
  | cons hab hrest ih =>
    simp only [List.mem_cons, ih, exists_eq_or_imp, hab, Except.ok.injEq]
    exact or_congr_left eq_comm

/-- What holds between two elements holds between what is computed of them. -/
theorem mapM_pairwise {f : α → Except ε β} {xs : List α} {ys : List β} {P : α → α → Prop}
    {Q : β → β → Prop} (h : xs.mapM f = .ok ys) (hxs : xs.Pairwise P)
    (hPQ : ∀ a ∈ xs, ∀ b, f a = .ok b → ∀ a' ∈ xs, ∀ b', f a' = .ok b' → P a a' → Q b b') :
    ys.Pairwise Q := by
  induction xs generalizing ys with
  | nil =>
    rw [List.forall₂_nil_left_iff.mp (mapM_ok.mp h)]
    exact .nil
  | cons a xs ih =>
    obtain ⟨b, bs, hb, hbs, rfl⟩ := List.forall₂_cons_left_iff.mp (mapM_ok.mp h)
    have hbs := mapM_ok.mpr hbs
    rw [List.pairwise_cons] at hxs
    refine List.pairwise_cons.mpr ⟨fun b' hb' => ?_, ?_⟩
    · obtain ⟨a', ha', hfa'⟩ := (mapM_mem hbs).mp hb'
      exact hPQ a (List.mem_cons_self ..) b hb a' (List.mem_cons_of_mem _ ha') b' hfa'
        (hxs.1 a' ha')
    · exact ih hbs hxs.2 fun x hx y hy x' hx' y' hy' =>
        hPQ x (List.mem_cons_of_mem _ hx) y hy x' (List.mem_cons_of_mem _ hx') y' hy'

theorem mapM_map {f : α → Except ε β} {xs : List α} {ys : List β} {g : α → γ} {g' : β → γ}
    (h : xs.mapM f = .ok ys) (hg : ∀ a b, f a = .ok b → g' b = g a) : ys.map g' = xs.map g := by
  rw [mapM_ok] at h
  induction h with
  | nil => rfl
  | cons hab hrest ih => rw [List.map_cons, List.map_cons, ih, hg _ _ hab]

/-- The first element on which the function fails. -/
theorem mapM_error {f : α → Except ε β} {xs : List α} :
    xs.mapM f = .error e ↔ ∃ front a back, xs = front ++ a :: back ∧
      (∀ x ∈ front, ∃ b, f x = .ok b) ∧ f a = .error e := by
  induction xs with
  | nil =>
    constructor
    · exact nofun
    · rintro ⟨front, a, back, heq, -, -⟩
      simp at heq
  | cons x xs ih =>
    rw [List.mapM_cons, bind_eq_error]
    constructor
    · rintro (hx | ⟨b, hb, hrest⟩)
      · exact ⟨[], x, xs, rfl, nofun, hx⟩
      · rcases bind_eq_error.mp hrest with hrest | ⟨bs, -, hpure⟩
        · obtain ⟨front, a, back, rfl, hfront, ha⟩ := ih.mp hrest
          exact ⟨x :: front, a, back, rfl, List.forall_mem_cons.mpr ⟨⟨b, hb⟩, hfront⟩, ha⟩
        · exact absurd hpure pure_ne_error
    · rintro ⟨front, a, back, heq, hfront, ha⟩
      cases front with
      | nil =>
        obtain ⟨rfl, rfl⟩ := List.cons.inj heq
        exact .inl ha
      | cons x' front =>
        obtain ⟨rfl, rfl⟩ := List.cons.inj heq
        obtain ⟨⟨b, hb⟩, hfront⟩ := List.forall_mem_cons.mp hfront
        refine .inr ⟨b, hb, bind_eq_error.mpr (.inl ?_)⟩
        exact ih.mpr ⟨front, a, back, rfl, hfront, ha⟩

theorem mapM_eq_map {f : α → Except ε β} {g : α → β} {l : List α} (h : ∀ a ∈ l, f a = .ok (g a)) :
    l.mapM f = .ok (l.map g) :=
  mapM_ok.mpr (List.forall₂_map_right_iff.mpr (List.forall₂_same.mpr h))

theorem mapM_congr {f g : α → Except ε β} {l : List α} (h : ∀ a ∈ l, f a = g a) :
    l.mapM f = l.mapM g := by
  induction l with
  | nil => rfl
  | cons a l ih =>
    rw [List.mapM_cons, List.mapM_cons, h a (List.mem_cons_self ..),
      ih fun b hb => h b (List.mem_cons_of_mem _ hb)]

/-- A loop whose passes check `P` and then move on by `next` runs through
exactly when every element passes, each at the state the earlier ones lead to. -/
theorem loop_ok_iff {f : σ → α → Except ε σ} {P : σ → α → Prop} {next : σ → α → σ}
    (hf : ∀ s a t, f s a = .ok t ↔ P s a ∧ t = next s a) :
    (∃ t, loop f s xs = .ok t) ↔ ∀ ys a zs, xs = ys ++ a :: zs → P (ys.foldl next s) a := by
  induction xs generalizing s with
  | nil => simp
  | cons x xs ih =>
    simp only [loop_cons, hf]
    constructor
    · rintro ⟨t, s', ⟨hp, rfl⟩, hr⟩ ys a zs hsplit
      cases ys with
      | nil =>
        obtain ⟨rfl, rfl⟩ := List.cons.inj hsplit
        exact hp
      | cons y ys =>
        obtain ⟨rfl, htail⟩ := List.cons.inj hsplit
        exact ih.mp ⟨t, hr⟩ ys a zs htail
    · intro h
      obtain ⟨t, ht⟩ := ih.mpr fun ys a zs hsplit => h (x :: ys) a zs (by simp [hsplit])
      exact ⟨t, _, ⟨h [] x xs rfl, rfl⟩, ht⟩

-- ---------------------------------------------------------------------------
-- Which exceptions a computation raises
-- ---------------------------------------------------------------------------

/-- Every exception the computation raises is one of these. -/
def RaisesOnly (P : ε → Prop) (x : Except ε α) : Prop := ∀ e, x = .error e → P e

namespace RaisesOnly

theorem ok {P : ε → Prop} (a : α) : RaisesOnly P (.ok a) := nofun

theorem error {P : ε → Prop} (h : P e) : RaisesOnly P (.error e : Except ε α) := by
  rintro e ⟨⟩
  exact h

theorem bind {P : ε → Prop} {x : Except ε α} {f : α → Except ε β} (hx : RaisesOnly P x)
    (hf : ∀ a, x = .ok a → RaisesOnly P (f a)) : RaisesOnly P (x >>= f) := by
  intro e he
  rcases bind_eq_error.mp he with he | ⟨a, ha, he⟩
  · exact hx e he
  · exact hf a ha e he

theorem raiseIf {P : ε → Prop} {c : Prop} [Decidable c] (h : P e) :
    RaisesOnly P (Checks.raiseIf c e) := by
  intro e' he
  rw [← (raiseIf_error.mp he).2]
  exact h

theorem need {P : ε → Prop} {o : Option α} (h : P e) : RaisesOnly P (Checks.need o e) := by
  intro e' he
  rw [← (need_error.mp he).2]
  exact h

theorem loop {P : ε → Prop} {f : σ → α → Except ε σ} (hf : ∀ s a, RaisesOnly P (f s a)) :
    RaisesOnly P (Checks.loop f s xs) := by
  intro e he
  obtain ⟨-, a, -, t, -, -, ha⟩ := loop_error.mp he
  exact hf t a e ha

end RaisesOnly

end Paic.Checks
