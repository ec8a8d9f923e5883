import Paic.Lib.Checks

/-!
# Routines with state and exceptions

A routine changes a state and returns or raises; what it had changed before
it raised stays changed. `After` says what holds when it returns and what
when it raises, and has one rule for each way of building a routine.
-/

namespace Paic.Routine

variable {ε σ τ α β : Type} {s : σ} {Q Q' : α → σ → Prop} {E E' : ε → σ → Prop}

def After (m : EStateM ε σ α) (s : σ) (Q : α → σ → Prop) (E : ε → σ → Prop) : Prop :=
  match m s with
  | .ok a s' => Q a s'
  | .error e s' => E e s'

theorem After.mono {m : EStateM ε σ α} (h : After m s Q E) (hq : ∀ a s', Q a s' → Q' a s')
    (he : ∀ e s', E e s' → E' e s') : After m s Q' E' := by
  unfold After at h ⊢
  split at h
  · exact hq _ _ h
  · exact he _ _ h

/-- The outcome is the one the routine has. -/
theorem After.outcome {m : EStateM ε σ α} (h : After m s Q E) :
    After m s (fun a s' => m s = .ok a s' ∧ Q a s') fun e s' => m s = .error e s' ∧ E e s' := by
  unfold After at h ⊢
  split at h
  · exact ⟨‹_›, h⟩
  · exact ⟨‹_›, h⟩

theorem After.ok {m : EStateM ε σ α} (h : After m s Q E) (hm : m s = .ok a s') : Q a s' := by
  simpa only [After, hm] using h

theorem after_of_ok {m : EStateM ε σ α} (hm : m s = .ok a s') (h : Q a s') : After m s Q E := by
  simpa only [After, hm] using h

theorem After.error {m : EStateM ε σ α} (h : After m s Q E) (hm : m s = .error e s') : E e s' := by
  simpa only [After, hm] using h

@[simp] theorem after_pure {a : α} : After (pure a : EStateM ε σ α) s Q E ↔ Q a s := Iff.rfl

@[simp] theorem after_throw {e : ε} : After (throw e : EStateM ε σ α) s Q E ↔ E e s := Iff.rfl

theorem after_bind {m : EStateM ε σ β} {k : β → EStateM ε σ α} :
    After (m >>= k) s Q E ↔ After m s (fun b s' => After (k b) s' Q E) E := by
  show After (EStateM.bind m k) s Q E ↔ _
  unfold After EStateM.bind
  cases m s <;> rfl

theorem after_map {m : EStateM ε σ β} {f : β → α} :
    After (f <$> m) s Q E ↔ After m s (fun b s' => Q (f b) s') E := by
  show After (EStateM.map f m) s Q E ↔ _
  unfold After EStateM.map
  cases m s <;> rfl

@[simp] theorem after_get {Q : σ → σ → Prop} :
    After (get : EStateM ε σ σ) s Q E ↔ Q s s := Iff.rfl

@[simp] theorem after_modify {f : σ → σ} {Q : PUnit → σ → Prop} :
    After (modify f : EStateM ε σ PUnit) s Q E ↔ Q ⟨⟩ (f s) := Iff.rfl

/-- `try: m except exc: handler(exc)`. -/
def handle (m : EStateM ε σ α) (handler : ε → EStateM ε σ α) : EStateM ε σ α := fun s =>
  match m s with
  | .ok a s' => .ok a s'
  | .error e s' => handler e s'

theorem after_handle {m : EStateM ε σ α} {handler : ε → EStateM ε σ α} :
    After (handle m handler) s Q E ↔ After m s Q fun e s' => After (handler e) s' Q E := by
  unfold After handle
  cases m s <;> rfl

/-- What a routine raises, as a value. -/
def attempt (m : EStateM ε σ α) : EStateM ε σ (Except ε α) :=
  handle (Except.ok <$> m) fun e => pure (.error e)

theorem after_attempt {m : EStateM ε σ α} {Q : Except ε α → σ → Prop} :
    After (attempt m) s Q E ↔
      After m s (fun a s' => Q (.ok a) s') fun e s' => Q (.error e) s' := by
  rw [attempt, after_handle, after_map]
  rfl

def raiseIf (c : Prop) [Decidable c] (e : ε) : EStateM ε σ Unit :=
  if c then throw e else pure ()

theorem after_raiseIf {c : Prop} [Decidable c] {e : ε} {Q : Unit → σ → Prop} :
    After (raiseIf c e) s Q E ↔ (c → E e s) ∧ (¬ c → Q () s) := by
  unfold raiseIf
  by_cases h : c <;> simp [h]

/-- `if c: m` -/
def onlyIf (c : Prop) [Decidable c] (m : EStateM ε σ Unit) : EStateM ε σ Unit :=
  if c then m else pure ()

theorem after_onlyIf {c : Prop} [Decidable c] {m : EStateM ε σ Unit} {Q : Unit → σ → Prop} :
    After (onlyIf c m) s Q E ↔ (c → After m s Q E) ∧ (¬ c → Q () s) := by
  unfold onlyIf
  by_cases h : c <;> simp [h]

def need (o : Option α) (e : ε) : EStateM ε σ α :=
  match o with
  | some a => pure a
  | none => throw e

theorem after_need {o : Option α} {e : ε} :
    After (need o e) s Q E ↔ (∀ a, o = some a → Q a s) ∧ (o = none → E e s) := by
  cases o <;> simp [need]

/-- A routine on a part of the state. -/
def within (get : σ → τ) (put : σ → τ → σ) (m : EStateM ε τ α) : EStateM ε σ α := fun s =>
  match m (get s) with
  | .ok a t => .ok a (put s t)
  | .error e t => .error e (put s t)

theorem after_within {get : σ → τ} {put : σ → τ → σ} {m : EStateM ε τ α} :
    After (within get put m) s Q E ↔
      After m (get s) (fun a t => Q a (put s t)) fun e t => E e (put s t) := by
  unfold After within
  cases m (get s) <;> rfl

-- ---------------------------------------------------------------------------
-- What every outcome keeps
-- ---------------------------------------------------------------------------

/-- Returning or raising, the routine leaves this view of the state as it is. -/
def Keeps (view : σ → τ) (m : EStateM ε σ α) : Prop :=
  ∀ s, After m s (fun _ s' => view s' = view s) fun _ s' => view s' = view s

section
variable {view : σ → τ}

theorem keeps_pure {a : α} : Keeps view (pure a : EStateM ε σ α) := fun _ => rfl

theorem keeps_throw {e : ε} : Keeps view (throw e : EStateM ε σ α) := fun _ => rfl

theorem keeps_bind {m : EStateM ε σ β} {k : β → EStateM ε σ α} (hm : Keeps view m)
    (hk : ∀ b, Keeps view (k b)) : Keeps view (m >>= k) := by
  intro s
  rw [after_bind]
  refine (hm s).mono (fun b s' h => ?_) fun e s' h => h
  exact (hk b s').mono (fun a s'' h' => h'.trans h) fun e s'' h' => h'.trans h

theorem keeps_handle {m : EStateM ε σ α} {handler : ε → EStateM ε σ α} (hm : Keeps view m)
    (hh : ∀ e, Keeps view (handler e)) : Keeps view (handle m handler) := by
  intro s
  rw [after_handle]
  refine (hm s).mono (fun a s' h => h) fun e s' h => ?_
  exact (hh e s').mono (fun a s'' h' => h'.trans h) fun e s'' h' => h'.trans h

theorem keeps_attempt {m : EStateM ε σ α} (hm : Keeps view m) : Keeps view (attempt m) := by
  intro s
  rw [after_attempt]
  exact (hm s).mono (fun _ _ h => h) fun _ _ h => h

theorem keeps_raiseIf {c : Prop} [Decidable c] {e : ε} :
    Keeps view (raiseIf c e : EStateM ε σ Unit) := by
  intro s
  rw [after_raiseIf]
  exact ⟨fun _ => rfl, fun _ => rfl⟩

theorem keeps_need {o : Option α} {e : ε} : Keeps view (need o e : EStateM ε σ α) := by
  intro s
  rw [after_need]
  exact ⟨fun _ _ => rfl, fun _ => rfl⟩

theorem keeps_ite {c : Prop} [Decidable c] {m m' : EStateM ε σ α} (hm : c → Keeps view m)
    (hm' : ¬ c → Keeps view m') : Keeps view (if c then m else m') := by
  by_cases h : c
  · rw [if_pos h]
    exact hm h
  · rw [if_neg h]
    exact hm' h

end

-- ---------------------------------------------------------------------------
-- Invariants
-- ---------------------------------------------------------------------------

/-- The invariant holds after the routine when it held before. -/
def Maintains (I : σ → Prop) (m : EStateM ε σ α) : Prop :=
  ∀ s, I s → After m s (fun _ s' => I s') fun _ s' => I s'

section
variable {I : σ → Prop}

theorem maintains_pure {a : α} : Maintains I (pure a : EStateM ε σ α) := fun _ h => h

theorem maintains_throw {e : ε} : Maintains I (throw e : EStateM ε σ α) := fun _ h => h

theorem maintains_bind {m : EStateM ε σ β} {k : β → EStateM ε σ α} (hm : Maintains I m)
    (hk : ∀ b, Maintains I (k b)) : Maintains I (m >>= k) := by
  intro s h
  rw [after_bind]
  exact (hm s h).mono (fun b s' h' => hk b s' h') fun _ _ h' => h'

theorem maintains_raiseIf {c : Prop} [Decidable c] {e : ε} :
    Maintains I (raiseIf c e : EStateM ε σ Unit) := by
  intro s h
  rw [after_raiseIf]
  exact ⟨fun _ => h, fun _ => h⟩

theorem maintains_onlyIf {c : Prop} [Decidable c] {m : EStateM ε σ Unit}
    (hm : c → Maintains I m) : Maintains I (onlyIf c m) := by
  intro s h
  rw [after_onlyIf]
  exact ⟨fun hc => hm hc s h, fun _ => h⟩

theorem maintains_need {o : Option α} {e : ε} : Maintains I (need o e : EStateM ε σ α) := by
  intro s h
  rw [after_need]
  exact ⟨fun _ _ => h, fun _ => h⟩

theorem maintains_attempt {m : EStateM ε σ α} (hm : Maintains I m) : Maintains I (attempt m) := by
  intro s h
  rw [after_attempt]
  exact hm s h

theorem maintains_exists {ι : Type} {J : ι → σ → Prop} {m : EStateM ε σ α}
    (hm : ∀ i, Maintains (J i) m) : Maintains (fun s => ∃ i, J i s) m := by
  rintro s ⟨i, h⟩
  exact (hm i s h).mono (fun _ _ h' => ⟨i, h'⟩) fun _ _ h' => ⟨i, h'⟩

theorem maintains_modify {f : σ → σ} (hf : ∀ s, I s → I (f s)) :
    Maintains I (modify f : EStateM ε σ PUnit) := fun s h => hf s h

end

end Paic.Routine
