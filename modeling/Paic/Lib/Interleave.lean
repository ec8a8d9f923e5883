import Paic.Lib.Prog
import Mathlib

/-!
# Programs side by side

Programs on a shared state take their steps in any order. `Bounded` says what
the steps of a program do as long as the others keep a condition, `Before` that
it is bounded up to an event, and `Awaits` that it does not return without one.
None of them speaks of the state, so that each survives the steps of others.
-/

namespace Paic.Prog

variable {ε σ α β : Type}

/-- One step of a program: it goes on when the state is ready, or it raises. -/
inductive Step : Prog ε σ α → σ → Prog ε σ α → σ → Prop where
  | next (hready : ready s = true) : Step (.step ready act next raised) s (next s) (act s)
  | raised : Step (.step ready act next raised) s (raised e) s

namespace Step

variable {p q : Prog ε σ α} {s t : σ}

theorem bind (h : p.Step s q t) (k : α → Prog ε σ β) : (p >>= k).Step s (q >>= k) t := by
  cases h with
  | next hready => exact .next hready
  | raised => exact .raised

theorem handle (h : p.Step s q t) (k : ε → Prog ε σ α) : (p.handle k).Step s (q.handle k) t := by
  cases h with
  | next hready => exact .next hready
  | raised => exact .raised

theorem ensuring (h : p.Step s q t) (r : Prog ε σ Unit) :
    (p.ensuring r).Step s (q.ensuring r) t :=
  ((h.bind _).handle _).bind _

theorem read {f : σ → Except ε α} (h : f s = .ok a) : (read f).Step s (.done a) s := by
  have hstep : (Prog.read f).Step s _ _ := .next rfl
  simpa only [h, Except.map] using hstep

theorem modify (f : σ → σ) : (modify f : Prog ε σ Unit).Step s (.done ()) (f s) := .next rfl

theorem await {ready : σ → Bool} {act : σ → σ} (h : ready s = true) :
    (await ready act : Prog ε σ Unit).Step s (.done ()) (act s) := .next h

end Step

/-- An undisturbed run, up to its end. -/
theorem Reaches.of_run {p : Prog ε σ α} {s t : σ} (h : p.run s = .returned a t) :
    p.Reaches s (.done a) t := by
  induction p generalizing s with
  | done b =>
    obtain ⟨rfl, rfl⟩ := Outcome.returned.inj h
    exact .refl
  | raise e => exact absurd h nofun
  | step ready act next raised ih _ =>
    have h : (if ready s then (next s).run (act s) else .blocked s) = .returned a t := h
    split at h
    · next hready => exact .step hready (ih s h)
    · exact absurd h nofun

-- ---------------------------------------------------------------------------
-- Steps under a condition
-- ---------------------------------------------------------------------------

/-- A step from a state in `B` is in `G`, and what the program returns is in `Q`. -/
def Bounded (B : σ → Prop) (G : σ → σ → Prop) (Q : α → Prop) : Prog ε σ α → Prop
  | .done a => Q a
  | .raise _ => True
  | .step ready act next raised =>
    (∀ s, B s → ready s = true → G s (act s) ∧ (next s).Bounded B G Q) ∧
      ∀ e, (raised e).Bounded B G Q

section
variable {B : σ → Prop} {G : σ → σ → Prop} {Q : α → Prop} {p q : Prog ε σ α} {s t : σ}

theorem Bounded.of_step (h : p.Bounded B G Q) (hB : B s) (hstep : p.Step s q t) :
    q.Bounded B G Q ∧ (t = s ∨ G s t) := by
  cases hstep with
  | next hready => exact ⟨(h.1 s hB hready).2, .inr (h.1 s hB hready).1⟩
  | raised => exact ⟨h.2 _, .inl rfl⟩

theorem Bounded.mono (h : p.Bounded B G Q) (hQ : ∀ a, Q a → Q' a) : p.Bounded B G Q' := by
  induction p with
  | done a => exact hQ a h
  | raise e => trivial
  | step ready act next raised ihn ihr =>
    exact ⟨fun s hs hready => ⟨(h.1 s hs hready).1, ihn s (h.1 s hs hready).2⟩,
      fun e => ihr e (h.2 e)⟩

/-- What holds under a weaker condition. -/
theorem Bounded.restrict (h : p.Bounded B G Q) (hB : ∀ s, B' s → B s) : p.Bounded B' G Q := by
  induction p with
  | done a => exact h
  | raise e => trivial
  | step ready act next raised ihn ihr =>
    exact ⟨fun s hs hready => ⟨(h.1 s (hB s hs) hready).1, ihn s (h.1 s (hB s hs) hready).2⟩,
      fun e => ihr e (h.2 e)⟩

theorem Bounded.bind {k : α → Prog ε σ β} {Q' : β → Prop} (h : p.Bounded B G Q)
    (hk : ∀ a, Q a → (k a).Bounded B G Q') : (p >>= k).Bounded B G Q' := by
  induction p with
  | done a => exact hk a h
  | raise e => trivial
  | step ready act next raised ihn ihr =>
    exact ⟨fun s hs hready => ⟨(h.1 s hs hready).1, ihn s (h.1 s hs hready).2⟩,
      fun e => ihr e (h.2 e)⟩

theorem Bounded.handle {k : ε → Prog ε σ α} (h : p.Bounded B G Q)
    (hk : ∀ e, (k e).Bounded B G Q) : (p.handle k).Bounded B G Q := by
  induction p with
  | done a => exact h
  | raise e => exact hk e
  | step ready act next raised ihn ihr =>
    exact ⟨fun s hs hready => ⟨(h.1 s hs hready).1, ihn s (h.1 s hs hready).2⟩,
      fun e => ihr e (h.2 e)⟩

theorem Bounded.ofExcept {x : Except ε α} (h : ∀ a, x = .ok a → Q a) :
    (ofExcept x : Prog ε σ α).Bounded B G Q := by
  cases x with
  | ok a => exact h a rfl
  | error e => trivial

theorem Bounded.op {f : σ → Except ε (α × σ)} (hrefl : ∀ s, G s s)
    (h : ∀ s a t, B s → f s = .ok (a, t) → G s t ∧ Q a) : (op f).Bounded B G Q := by
  refine ⟨fun s hs _ => ?_, fun e => trivial⟩
  dsimp only
  cases hf : f s with
  | error e => exact ⟨hrefl s, trivial⟩
  | ok r => exact h s r.1 r.2 hs hf

theorem Bounded.read {f : σ → Except ε α} (hrefl : ∀ s, G s s)
    (h : ∀ s a, B s → f s = .ok a → Q a) : (read f).Bounded B G Q := by
  refine .op hrefl fun s a t hs hf => ?_
  cases ha : f s with
  | error e =>
    rw [ha] at hf
    cases hf
  | ok b =>
    rw [ha] at hf
    obtain ⟨rfl, rfl⟩ := Prod.mk.inj (Except.ok.inj hf)
    exact ⟨hrefl s, h s b hs ha⟩

theorem Bounded.modify {f : σ → σ} (h : ∀ s, B s → G s (f s)) :
    (modify f : Prog ε σ Unit).Bounded B G fun _ => True :=
  ⟨fun s hs _ => ⟨h s hs, trivial⟩, fun _ => trivial⟩

theorem Bounded.await {ready : σ → Bool} {act : σ → σ}
    (h : ∀ s, B s → ready s = true → G s (act s)) :
    (await ready act : Prog ε σ Unit).Bounded B G fun _ => True :=
  ⟨fun s hs hready => ⟨h s hs hready, trivial⟩, fun _ => trivial⟩

theorem Bounded.within {τ : Type} {part : Part σ τ} {p : Prog ε τ α}
    (h : ∀ s t, B s → G s (part.put s t)) : (p.within part).Bounded B G fun _ => True := by
  induction p with
  | done a => trivial
  | raise e => trivial
  | step ready act next raised ihn ihr => exact ⟨fun s hs _ => ⟨h s _ hs, ihn _⟩, fun e => ihr e⟩

theorem Bounded.ensuring {q : Prog ε σ Unit} (h : p.Bounded B G Q)
    (hq : q.Bounded B G fun _ => True) : (p.ensuring q).Bounded B G Q := by
  let Q' : Except ε α → Prop := fun r => ∀ a, r = .ok a → Q a
  have hok : (p >>= fun a => pure (Except.ok a)).Bounded B G Q' :=
    h.bind fun a ha b hb => by cases hb; exact ha
  have hattempt : p.attempt.Bounded B G Q' := hok.handle fun e a => nofun
  exact hattempt.bind fun r hr => hq.bind fun _ _ => .ofExcept hr

end

-- ---------------------------------------------------------------------------
-- Up to an event
-- ---------------------------------------------------------------------------

/-- `A` holds of the program and of what is left of it, up to the first step that is
an event. Until then every step is in `G`. -/
def Before (event G : σ → σ → Prop) (A : Prog ε σ α → Prop) : Prog ε σ α → Prop
  | .done a => A (.done a)
  | .raise e => A (.raise e)
  | .step ready act next raised =>
    A (.step ready act next raised) ∧
      (∀ s, ready s = true → G s (act s) ∧ (event s (act s) → A (next s)) ∧
        (¬ event s (act s) → (next s).Before event G A)) ∧
      ∀ e, (raised e).Before event G A

section
variable {event G : σ → σ → Prop} {B : σ → Prop} {Q : α → Prop} {p q : Prog ε σ α} {s t : σ}

theorem Before.holds {A : Prog ε σ α → Prop} (h : p.Before event G A) : A p := by
  cases p with
  | done a => exact h
  | raise e => exact h
  | step ready act next raised => exact h.1

theorem Before.of_step {A : Prog ε σ α → Prop} (h : p.Before event G A) (hstep : p.Step s q t) :
    A q ∧ (t = s ∨ G s t) ∧ (¬ event s t → q.Before event G A) := by
  cases hstep with
  | next hready =>
    obtain ⟨hG, hevent, hrest⟩ := h.2.1 s hready
    exact ⟨(Classical.em _).elim hevent fun he => (hrest he).holds, .inr hG, hrest⟩
  | raised => exact ⟨(h.2.2 _).holds, .inl rfl, fun _ => h.2.2 _⟩

theorem Before.bind {k : α → Prog ε σ β} {Q' : β → Prop} (h : p.Before event G (Bounded B G Q))
    (hk : ∀ a, Q a → (k a).Before event G (Bounded B G Q')) :
    (p >>= k).Before event G (Bounded B G Q') := by
  have hbound : ∀ a, Q a → (k a).Bounded B G Q' := fun a ha => (hk a ha).holds
  induction p with
  | done a => exact hk a h
  | raise e => trivial
  | step ready act next raised ihn ihr =>
    refine ⟨Bounded.bind h.1 hbound, fun s hready => ?_, fun e => ihr e (h.2.2 e)⟩
    obtain ⟨hG, hevent, hrest⟩ := h.2.1 s hready
    exact ⟨hG, fun he => (hevent he).bind hbound, fun he => ihn s (hrest he)⟩

theorem Before.handle {k : ε → Prog ε σ α} (h : p.Before event G (Bounded B G Q))
    (hk : ∀ e, (k e).Before event G (Bounded B G Q)) :
    (p.handle k).Before event G (Bounded B G Q) := by
  have hbound : ∀ e, (k e).Bounded B G Q := fun e => (hk e).holds
  induction p with
  | done a => exact h
  | raise e => exact hk e
  | step ready act next raised ihn ihr =>
    refine ⟨Bounded.handle h.1 hbound, fun s hready => ?_, fun e => ihr e (h.2.2 e)⟩
    obtain ⟨hG, hevent, hrest⟩ := h.2.1 s hready
    exact ⟨hG, fun he => (hevent he).handle hbound, fun he => ihn s (hrest he)⟩

/-- A program of which no step is an event. -/
theorem Before.of_bounded
    (h : p.Bounded (fun _ => True) (fun s t => G s t ∧ ¬ event s t) Q) :
    p.Before event G (Bounded B G Q) := by
  have hbound : ∀ p : Prog ε σ α, p.Bounded (fun _ => True) (fun s t => G s t ∧ ¬ event s t) Q →
      p.Bounded B G Q := by
    intro p h
    induction p with
    | done a => exact h
    | raise e => trivial
    | step ready act next raised ihn ihr =>
      exact ⟨fun s _ hready =>
        ⟨(h.1 s trivial hready).1.1, ihn s (h.1 s trivial hready).2⟩, fun e => ihr e (h.2 e)⟩
  induction p with
  | done a => exact h
  | raise e => trivial
  | step ready act next raised ihn ihr =>
    refine ⟨hbound _ h, fun s hready => ?_, fun e => ihr e (h.2 e)⟩
    obtain ⟨⟨hG, hevent⟩, hrest⟩ := h.1 s trivial hready
    exact ⟨hG, fun he => absurd he hevent, fun _ => ihn s hrest⟩

/-- Waiting may be the event. -/
theorem Before.await_bind {ready : σ → Bool} {act : σ → σ} {k : Unit → Prog ε σ α}
    (hG : ∀ s, ready s = true → G s (act s)) (hevent : ∀ s, ready s = true → event s (act s))
    (hk : (k ()).Bounded B G Q) :
    ((await ready act : Prog ε σ Unit) >>= k).Before event G (Bounded B G Q) := by
  refine ⟨⟨fun s _ hready => ⟨hG s hready, hk⟩, fun _ => trivial⟩, fun s hready => ?_, fun _ => trivial⟩
  exact ⟨hG s hready, fun _ => hk, fun h => absurd (hevent s hready) h⟩

theorem Before.ensuring {q : Prog ε σ Unit} (h : p.Before event G (Bounded B G Q))
    (hq : q.Bounded (fun _ => True) (fun s t => G s t ∧ ¬ event s t) fun _ => True) :
    (p.ensuring q).Before event G (Bounded B G Q) := by
  let Q' : Except ε α → Prop := fun r => ∀ a, r = .ok a → Q a
  have hok : (p >>= fun a => pure (Except.ok a)).Before event G (Bounded B G Q') :=
    h.bind fun a ha b hb => by cases hb; exact ha
  have hattempt : p.attempt.Before event G (Bounded B G Q') := hok.handle fun e a => nofun
  refine hattempt.bind fun r hr => ?_
  refine Before.bind (.of_bounded hq) fun _ _ => ?_
  exact .of_bounded (.ofExcept hr)

end

-- ---------------------------------------------------------------------------
-- Waiting for an event
-- ---------------------------------------------------------------------------

/-- What the program returns before one of its steps is an event is in `Q`. -/
def Awaits (event : σ → σ → Prop) (Q : α → Prop) : Prog ε σ α → Prop
  | .done a => Q a
  | .raise _ => True
  | .step ready act next raised =>
    (∀ s, ready s = true → event s (act s) ∨ (next s).Awaits event Q) ∧
      ∀ e, (raised e).Awaits event Q

section
variable {event : σ → σ → Prop} {Q : α → Prop} {p q : Prog ε σ α} {s t : σ}

theorem Awaits.of_step (h : p.Awaits event Q) (hstep : p.Step s q t) :
    event s t ∨ q.Awaits event Q := by
  cases hstep with
  | next hready => exact h.1 s hready
  | raised => exact .inr (h.2 _)

theorem Awaits.trivial (p : Prog ε σ α) : p.Awaits event fun _ => True := by
  induction p with
  | done a => exact True.intro
  | raise e => exact True.intro
  | step ready act next raised ihn ihr => exact ⟨fun s _ => .inr (ihn s), ihr⟩

theorem Awaits.bind {k : α → Prog ε σ β} {Q' : β → Prop} (h : p.Awaits event Q)
    (hk : ∀ a, Q a → (k a).Awaits event Q') : (p >>= k).Awaits event Q' := by
  induction p with
  | done a => exact hk a h
  | raise e => exact True.intro
  | step ready act next raised ihn ihr =>
    exact ⟨fun s hready => (h.1 s hready).imp_right (ihn s), fun e => ihr e (h.2 e)⟩

theorem Awaits.handle {k : ε → Prog ε σ α} (h : p.Awaits event Q)
    (hk : ∀ e, (k e).Awaits event Q) : (p.handle k).Awaits event Q := by
  induction p with
  | done a => exact h
  | raise e => exact hk e
  | step ready act next raised ihn ihr =>
    exact ⟨fun s hready => (h.1 s hready).imp_right (ihn s), fun e => ihr e (h.2 e)⟩

theorem Awaits.ofExcept {x : Except ε α} (h : ∀ a, x = .ok a → Q a) :
    (ofExcept x : Prog ε σ α).Awaits event Q := by
  cases x with
  | ok a => exact h a rfl
  | error e => exact True.intro

theorem Awaits.modify {f : σ → σ} {Q : Unit → Prop} (h : ∀ s, event s (f s)) :
    (modify f : Prog ε σ Unit).Awaits event Q :=
  ⟨fun s _ => .inl (h s), fun _ => True.intro⟩

theorem Awaits.ensuring {q : Prog ε σ Unit} (h : p.Awaits event Q) :
    (p.ensuring q).Awaits event Q := by
  let Q' : Except ε α → Prop := fun r => ∀ a, r = .ok a → Q a
  have hok : (p >>= fun a => pure (Except.ok a)).Awaits event Q' :=
    h.bind fun a ha b hb => by cases hb; exact ha
  have hattempt : p.attempt.Awaits event Q' := hok.handle fun e a => nofun
  exact hattempt.bind fun r hr => (Awaits.trivial q).bind fun _ _ => .ofExcept hr

end

end Paic.Prog
