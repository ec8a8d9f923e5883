import Paic.Lib.Checks

/-!
# Programs of atomic steps

A program is a tree of atomic steps on a shared state. Between two steps the
process may crash; a step may raise an exception without taking effect; and
a step may have to wait until the state is ready for it, as a lock does.
Handlers are compiled into the tree, so that an exception injected at a step
continues where the enclosing `try` sends it.

`exec` runs a program under a schedule of faults. `wp` is what has to hold
before a program so that, whatever the faults, it returns, raises or crashes
only in states that are allowed; `exec_wp` connects the two.
-/

namespace Paic

open Checks (bind_eq_ok)

inductive Prog (ε σ α : Type) where
  | done (a : α)
  | raise (e : ε)
  | step (ready : σ → Bool) (act : σ → σ) (next : σ → Prog ε σ α) (raised : ε → Prog ε σ α)

namespace Prog

protected def bind : Prog ε σ α → (α → Prog ε σ β) → Prog ε σ β
  | .done a, k => k a
  | .raise e, _ => .raise e
  | .step ready act next raised, k =>
    .step ready act (fun s => (next s).bind k) (fun e => (raised e).bind k)

instance : Monad (Prog ε σ) where
  pure := .done
  bind := Prog.bind

/-- `try: p except exc: h(exc)`. -/
def handle : Prog ε σ α → (ε → Prog ε σ α) → Prog ε σ α
  | .done a, _ => .done a
  | .raise e, h => h e
  | .step ready act next raised, h =>
    .step ready act (fun s => (next s).handle h) (fun e => (raised e).handle h)

def ofExcept : Except ε α → Prog ε σ α
  | .ok a => .done a
  | .error e => .raise e

/-- One atomic operation: its result and the new state, or an exception
that leaves the state as it was. -/
def op (f : σ → Except ε (α × σ)) : Prog ε σ α :=
  .step (fun _ => true)
    (fun s => match f s with
      | .ok (_, s') => s'
      | .error _ => s)
    (fun s => match f s with
      | .ok (a, _) => .done a
      | .error e => .raise e)
    .raise

def read (f : σ → Except ε α) : Prog ε σ α := op fun s => (f s).map (·, s)

def modify (f : σ → σ) : Prog ε σ Unit := op fun s => .ok ((), f s)

/-- A step that leaves no trace in the state, such as `fsync`. -/
def touch : Prog ε σ Unit := modify fun s => s

/-- A step that waits until the state is ready for it. -/
def await (ready : σ → Bool) (act : σ → σ) : Prog ε σ Unit :=
  .step ready act (fun _ => .done ()) .raise

def attempt (p : Prog ε σ α) : Prog ε σ (Except ε α) :=
  (p >>= fun a => pure (Except.ok a)).handle fun e => pure (Except.error e)

/-- `try: p finally: q`. -/
def ensuring (p : Prog ε σ α) (q : Prog ε σ Unit) : Prog ε σ α :=
  p.attempt >>= fun r => q >>= fun _ => ofExcept r

/-- A part of the state that can be read and replaced. -/
structure Part (σ τ : Type) where
  get : σ → τ
  put : σ → τ → σ
  get_put : ∀ s t, get (put s t) = t
  put_get : ∀ s, put s (get s) = s
  put_put : ∀ s t t', put (put s t) t' = put s t'

/-- A program on a part of the state. -/
def within (part : Part σ τ) : Prog ε τ α → Prog ε σ α
  | .done a => .done a
  | .raise e => .raise e
  | .step ready act next raised =>
    .step (fun s => ready (part.get s)) (fun s => part.put s (act (part.get s)))
      (fun s => (next (part.get s)).within part) (fun e => (raised e).within part)

-- ---------------------------------------------------------------------------
-- Execution under faults
-- ---------------------------------------------------------------------------

/-- What befalls a program at one of its steps. -/
inductive Fault (ε : Type) where
  | pass
  | interrupt (e : ε)
  | crash
  deriving DecidableEq, Repr

inductive Outcome (ε σ α : Type) where
  | returned (a : α) (s : σ)
  | raised (e : ε) (s : σ)
  | crashed (s : σ)
  | blocked (s : σ)
  deriving DecidableEq, Repr

def Outcome.state : Outcome ε σ α → σ
  | .returned _ s | .raised _ s | .crashed s | .blocked s => s

def Outcome.andThen : Outcome ε σ α → (α → σ → Outcome ε σ β) → Outcome ε σ β
  | .returned a s, k => k a s
  | .raised e s, _ => .raised e s
  | .crashed s, _ => .crashed s
  | .blocked s, _ => .blocked s

def Outcome.orElse : Outcome ε σ α → (ε → σ → Outcome ε σ α) → Outcome ε σ α
  | .raised e s, h => h e s
  | o, _ => o

def Outcome.mapState (f : σ → τ) : Outcome ε σ α → Outcome ε τ α
  | .returned a s => .returned a (f s)
  | .raised e s => .raised e (f s)
  | .crashed s => .crashed (f s)
  | .blocked s => .blocked (f s)

/-- Steps beyond the end of the schedule meet no fault. -/
def exec : Prog ε σ α → List (Fault ε) → σ → Outcome ε σ α
  | .done a, _, s => .returned a s
  | .raise e, _, s => .raised e s
  | .step _ _ _ _, .crash :: _, s => .crashed s
  | .step _ _ _ raised, .interrupt e :: faults, s => (raised e).exec faults s
  | .step ready act next _, .pass :: faults, s =>
    if ready s then (next s).exec faults (act s) else .blocked s
  | .step ready act next _, [], s => if ready s then (next s).exec [] (act s) else .blocked s

/-- The undisturbed run. -/
def run (p : Prog ε σ α) (s : σ) : Outcome ε σ α := p.exec [] s

@[simp] theorem run_pure (a : α) (s : σ) : (pure a : Prog ε σ α).run s = .returned a s := rfl
@[simp] theorem run_done (a : α) (s : σ) : (done a : Prog ε σ α).run s = .returned a s := rfl
@[simp] theorem run_raise (e : ε) (s : σ) : (raise e : Prog ε σ α).run s = .raised e s := rfl

theorem run_bind (p : Prog ε σ α) (k : α → Prog ε σ β) (s : σ) :
    (p >>= k).run s = (p.run s).andThen fun a s' => (k a).run s' := by
  induction p generalizing s with
  | done a => rfl
  | raise e => rfl
  | step ready act next raised ih _ =>
    show (if ready s then ((next s) >>= k).run (act s) else .blocked s) =
      (if ready s then (next s).run (act s) else .blocked s).andThen fun a s' => (k a).run s'
    split
    · exact ih s (act s)
    · rfl

theorem run_handle (p : Prog ε σ α) (h : ε → Prog ε σ α) (s : σ) :
    (p.handle h).run s = (p.run s).orElse fun e s' => (h e).run s' := by
  induction p generalizing s with
  | done a => rfl
  | raise e => rfl
  | step ready act next raised ih _ =>
    show (if ready s then ((next s).handle h).run (act s) else .blocked s) =
      (if ready s then (next s).run (act s) else .blocked s).orElse fun e s' => (h e).run s'
    split
    · exact ih s (act s)
    · rfl

theorem run_op (f : σ → Except ε (α × σ)) (s : σ) :
    (op f).run s = match f s with
      | .ok (a, s') => .returned a s'
      | .error e => .raised e s := by
  unfold op run
  simp only [exec, ↓reduceIte]
  cases f s <;> rfl

theorem run_read (f : σ → Except ε α) (s : σ) :
    (read f).run s = match f s with
      | .ok a => .returned a s
      | .error e => .raised e s := by
  rw [read, run_op]
  cases f s <;> rfl

@[simp] theorem run_modify (f : σ → σ) (s : σ) :
    (modify f : Prog ε σ Unit).run s = .returned () (f s) := rfl

@[simp] theorem run_touch (s : σ) : (touch : Prog ε σ Unit).run s = .returned () s := rfl

theorem run_await (ready : σ → Bool) (act : σ → σ) (s : σ) :
    (await ready act : Prog ε σ Unit).run s =
      if ready s then .returned () (act s) else .blocked s := rfl

theorem run_ofExcept (x : Except ε α) (s : σ) :
    (ofExcept x : Prog ε σ α).run s = match x with
      | .ok a => .returned a s
      | .error e => .raised e s := by
  cases x <;> rfl

theorem run_attempt (p : Prog ε σ α) (s : σ) :
    p.attempt.run s = match p.run s with
      | .returned a s' => .returned (.ok a) s'
      | .raised e s' => .returned (.error e) s'
      | .crashed s' => .crashed s'
      | .blocked s' => .blocked s' := by
  rw [attempt, run_handle, run_bind]
  cases p.run s <;> rfl

theorem run_ensuring (p : Prog ε σ α) (q : Prog ε σ Unit) (s : σ) :
    (p.ensuring q).run s = match p.run s with
      | .returned a s' => (q.run s').andThen fun _ s'' => .returned a s''
      | .raised e s' => (q.run s').andThen fun _ s'' => .raised e s''
      | .crashed s' => .crashed s'
      | .blocked s' => .blocked s' := by
  rw [ensuring, run_bind, run_attempt]
  cases p.run s <;> simp only [Outcome.andThen, run_bind] <;> rfl

theorem run_within {part : Part σ τ} {p : Prog ε τ α} (s : σ) :
    (p.within part).run s = (p.run (part.get s)).mapState (part.put s) := by
  suffices h : ∀ t, (p.within part).run (part.put s t) = (p.run t).mapState (part.put s) by
    rw [← h, part.put_get]
  intro t
  induction p generalizing t with
  | done a => rfl
  | raise e => rfl
  | step ready act next raised ih _ =>
    show (if ready (part.get (part.put s t)) then
        ((next (part.get (part.put s t))).within part).run
          (part.put (part.put s t) (act (part.get (part.put s t))))
      else .blocked (part.put s t)) =
      (if ready t then (next t).run (act t) else .blocked t).mapState (part.put s)
    rw [part.get_put, part.put_put]
    split
    · exact ih t (act t)
    · rfl

/-- A run that returns goes on with what follows. -/
theorem run_bind_returned {p : Prog ε σ α} {k : α → Prog ε σ β}
    (h : p.run s = .returned a s') : (p >>= k).run s = (k a).run s' := by
  rw [run_bind, h]
  rfl

theorem run_op_bind {f : σ → Except ε (α × σ)} {k : α → Prog ε σ β} (s : σ)
    (h : f s = .ok (a, s')) : (op f >>= k).run s = (k a).run s' :=
  run_bind_returned (by rw [run_op, h])

theorem run_read_bind {f : σ → Except ε α} {k : α → Prog ε σ β} (s : σ) (h : f s = .ok a) :
    (read f >>= k).run s = (k a).run s :=
  run_bind_returned (by rw [run_read, h])

theorem run_ofExcept_bind {x : Except ε α} {k : α → Prog ε σ β} (h : x = .ok a) (s : σ) :
    (ofExcept x >>= k).run s = (k a).run s :=
  run_bind_returned (by rw [run_ofExcept, h])

-- ---------------------------------------------------------------------------
-- What holds whatever the faults
-- ---------------------------------------------------------------------------

/-- The program may return, raise or crash, each only in the states its
post-condition allows. A crash or an exception can come before every step. -/
def wp (Q : α → σ → Prop) (E : ε → σ → Prop) (C : σ → Prop) : Prog ε σ α → σ → Prop
  | .done a, s => Q a s
  | .raise e, s => E e s
  | .step ready act next raised, s =>
    C s ∧ (∀ e, (raised e).wp Q E C s) ∧ (ready s = true → (next s).wp Q E C (act s))

def Outcome.Meets (Q : α → σ → Prop) (E : ε → σ → Prop) (C : σ → Prop) : Outcome ε σ α → Prop
  | .returned a s => Q a s
  | .raised e s => E e s
  | .crashed s => C s
  | .blocked _ => True

/-- `wp` says exactly what every schedule of faults can do. -/
theorem exec_wp {p : Prog ε σ α} {s : σ} :
    p.wp Q E C s ↔ ∀ faults, (p.exec faults s).Meets Q E C := by
  induction p generalizing s with
  | done a => exact ⟨fun h _ => h, fun h => h []⟩
  | raise e => exact ⟨fun h _ => h, fun h => h []⟩
  | step ready act next raised ihn ihr =>
    constructor
    · rintro ⟨hc, hr, hn⟩ faults
      match faults with
      | .crash :: _ => exact hc
      | .interrupt e :: rest => exact (ihr e).mp (hr e) rest
      | .pass :: rest =>
        simp only [exec]
        split
        · next hready => exact (ihn s).mp (hn hready) rest
        · trivial
      | [] =>
        simp only [exec]
        split
        · next hready => exact (ihn s).mp (hn hready) []
        · trivial
    · intro h
      refine ⟨h [.crash], fun e => (ihr e).mpr fun rest => h (.interrupt e :: rest), ?_⟩
      intro hready
      refine (ihn s).mpr fun rest => ?_
      have := h (.pass :: rest)
      simpa only [exec, hready, ↓reduceIte] using this

theorem wp_mono {p : Prog ε σ α} (h : p.wp Q E C s) (hq : ∀ a s, Q a s → Q' a s)
    (he : ∀ e s, E e s → E' e s) (hc : ∀ s, C s → C' s) : p.wp Q' E' C' s := by
  induction p generalizing s with
  | done a => exact hq a s h
  | raise e => exact he e s h
  | step ready act next raised ihn ihr =>
    exact ⟨hc s h.1, fun e => ihr e (h.2.1 e), fun hready => ihn s (h.2.2 hready)⟩

@[simp] theorem wp_pure : (pure a : Prog ε σ α).wp Q E C s ↔ Q a s := Iff.rfl
@[simp] theorem wp_done : (done a : Prog ε σ α).wp Q E C s ↔ Q a s := Iff.rfl
@[simp] theorem wp_raise : (raise e : Prog ε σ α).wp Q E C s ↔ E e s := Iff.rfl

theorem wp_bind {p : Prog ε σ α} {k : α → Prog ε σ β} :
    (p >>= k).wp Q E C s ↔ p.wp (fun a s' => (k a).wp Q E C s') E C s := by
  induction p generalizing s with
  | done a => exact Iff.rfl
  | raise e => exact Iff.rfl
  | step ready act next raised ihn ihr =>
    exact and_congr Iff.rfl (and_congr (forall_congr' fun e => ihr e)
      (imp_congr Iff.rfl (ihn s)))

theorem wp_handle {p : Prog ε σ α} {h : ε → Prog ε σ α} :
    (p.handle h).wp Q E C s ↔ p.wp Q (fun e s' => (h e).wp Q E C s') C s := by
  induction p generalizing s with
  | done a => exact Iff.rfl
  | raise e => exact Iff.rfl
  | step ready act next raised ihn ihr =>
    exact and_congr Iff.rfl (and_congr (forall_congr' fun e => ihr e)
      (imp_congr Iff.rfl (ihn s)))

theorem wp_op {f : σ → Except ε (α × σ)} :
    (op f).wp Q E C s ↔ C s ∧ (∀ e, E e s) ∧
      ((∀ a s', f s = .ok (a, s') → Q a s') ∧ ∀ e, f s = .error e → E e s) := by
  unfold op
  simp only [wp, forall_const]
  cases f s with
  | error e => simp
  | ok r => cases r; simp

/-- A step raises any exception or leaves the state: to allow both is to
allow every state it starts in. -/
theorem wp_read {f : σ → Except ε α} :
    (read f).wp Q E C s ↔ C s ∧ (∀ e, E e s) ∧ ∀ a, f s = .ok a → Q a s := by
  rw [read, wp_op]
  constructor
  · rintro ⟨hc, he, hq, -⟩
    exact ⟨hc, he, fun a ha => hq a s (by simp [ha, Except.map])⟩
  · rintro ⟨hc, he, hq⟩
    refine ⟨hc, he, fun a s' h => ?_, fun e _ => he e⟩
    cases hf : f s with
    | error e => simp [hf, Except.map] at h
    | ok b =>
      simp only [hf, Except.map, Except.ok.injEq, Prod.mk.injEq] at h
      obtain ⟨rfl, rfl⟩ := h
      exact hq b hf

theorem wp_modify {f : σ → σ} :
    (modify f : Prog ε σ Unit).wp Q E C s ↔ C s ∧ (∀ e, E e s) ∧ Q () (f s) := by
  simp only [modify, wp_op, Except.ok.injEq, Prod.mk.injEq, reduceCtorEq, false_implies,
    implies_true, and_true]
  exact and_congr Iff.rfl (and_congr Iff.rfl
    ⟨fun h => h () _ ⟨trivial, rfl⟩, fun h _ _ ⟨_, hs⟩ => hs ▸ h⟩)

theorem wp_touch : (touch : Prog ε σ Unit).wp Q E C s ↔ C s ∧ (∀ e, E e s) ∧ Q () s := wp_modify

theorem wp_within {part : Part σ τ} {p : Prog ε τ α} : (p.within part).wp Q E C s ↔
    p.wp (fun a t => Q a (part.put s t)) (fun e t => E e (part.put s t))
      (fun t => C (part.put s t)) (part.get s) := by
  suffices h : ∀ t, (p.within part).wp Q E C (part.put s t) ↔
      p.wp (fun a t => Q a (part.put s t)) (fun e t => E e (part.put s t))
        (fun t => C (part.put s t)) t by
    rw [← h, part.put_get]
  intro t
  induction p generalizing t with
  | done a => exact Iff.rfl
  | raise e => exact Iff.rfl
  | step ready act next raised ihn ihr =>
    simp only [within, wp, part.get_put, part.put_put]
    exact and_congr Iff.rfl (and_congr (forall_congr' fun e => ihr e t)
      (imp_congr Iff.rfl (ihn t _)))

theorem wp_await {ready : σ → Bool} {act : σ → σ} :
    (await ready act : Prog ε σ Unit).wp Q E C s ↔
      C s ∧ (∀ e, E e s) ∧ (ready s = true → Q () (act s)) := Iff.rfl

theorem wp_ofExcept {x : Except ε α} :
    (ofExcept x : Prog ε σ α).wp Q E C s ↔
      (∀ a, x = .ok a → Q a s) ∧ ∀ e, x = .error e → E e s := by
  cases x <;> simp [ofExcept]

theorem wp_ensuring {p : Prog ε σ α} {q : Prog ε σ Unit} :
    (p.ensuring q).wp Q E C s ↔
      p.wp (fun a s' => q.wp (fun _ s'' => Q a s'') E C s')
        (fun e s' => q.wp (fun _ s'' => E e s'') E C s') C s := by
  rw [ensuring, wp_bind, attempt, wp_handle, wp_bind]
  simp only [wp_pure, wp_done, wp_bind, ofExcept, wp_raise]

/-- The program came to an end, and this is the state it left. -/
def Outcome.Ends : Outcome ε σ α → σ → Prop
  | .returned _ s, s' | .raised _ s, s' | .crashed s, s' => s = s'
  | .blocked _, _ => False

theorem Outcome.Meets.ends {o : Outcome ε σ α} {P : Prop} (h : o.Meets Q E C) (he : o.Ends s)
    (hq : ∀ a, Q a s → P) (hr : ∀ e, E e s → P) (hc : C s → P) : P := by
  cases o with
  | returned a s => obtain rfl := he; exact hq a h
  | raised e s => obtain rfl := he; exact hr e h
  | crashed s => obtain rfl := he; exact hc h
  | blocked s => exact he.elim

/-- A program that is allowed to stop anywhere `I` holds, and keeps `I`. -/
def Keeps (I : σ → Prop) (p : Prog ε σ α) : Prop :=
  ∀ s, I s → p.wp (fun _ => I) (fun _ => I) I s

theorem Keeps.exec {p : Prog ε σ α} (h : p.Keeps I) (hs : I s) (faults : List (Fault ε))
    (hb : ∀ s', p.exec faults s ≠ .blocked s') : I (p.exec faults s).state := by
  have hm := exec_wp.mp (h s hs) faults
  cases ho : p.exec faults s with
  | returned a s' => rw [ho] at hm; exact hm
  | raised e s' => rw [ho] at hm; exact hm
  | crashed s' => rw [ho] at hm; exact hm
  | blocked s' => exact absurd ho (hb s')

-- ---------------------------------------------------------------------------
-- Where a program can crash
-- ---------------------------------------------------------------------------

/-- Some faults make the program crash in the state `s'`. -/
def Crashes (p : Prog ε σ α) (s s' : σ) : Prop := ∃ faults, p.exec faults s = .crashed s'

/-- A crash is what `wp` does not allow. -/
theorem crashes_iff {p : Prog ε σ α} :
    p.Crashes s s' ↔ ¬ p.wp (fun _ _ => True) (fun _ _ => True) (· ≠ s') s := by
  rw [exec_wp, not_forall]
  refine exists_congr fun faults => ?_
  cases p.exec faults s <;> simp [Outcome.Meets]

namespace Crashes

theorem here {next : σ → Prog ε σ α} : (step ready act next raised).Crashes s s := ⟨[.crash], rfl⟩

theorem later {next : σ → Prog ε σ α} (h : (next s).Crashes (act s) s') (hready : ready s = true) :
    (step ready act next raised).Crashes s s' := by
  obtain ⟨faults, hf⟩ := h
  exact ⟨.pass :: faults, by simp only [exec, hready, ↓reduceIte, hf]⟩

theorem bind {p : Prog ε σ α} (h : p.Crashes s s') (k : α → Prog ε σ β) :
    (p >>= k).Crashes s s' := by
  rw [crashes_iff, wp_bind]
  exact fun hwp => crashes_iff.mp h (wp_mono hwp (fun _ _ _ => trivial) (fun _ _ => id) fun _ => id)

theorem handle {p : Prog ε σ α} (h : p.Crashes s s') (k : ε → Prog ε σ α) :
    (p.handle k).Crashes s s' := by
  rw [crashes_iff, wp_handle]
  exact fun hwp => crashes_iff.mp h (wp_mono hwp (fun _ _ => id) (fun _ _ _ => trivial) fun _ => id)

theorem ensuring {p : Prog ε σ α} (h : p.Crashes s s') (q : Prog ε σ Unit) :
    (p.ensuring q).Crashes s s' :=
  ((h.bind _).handle _).bind _

theorem within {p : Prog ε τ α} (part : Part σ τ) (h : p.Crashes (part.get s) t) :
    (p.within part).Crashes s (part.put s t) := by
  rw [crashes_iff, wp_within]
  refine fun hwp => crashes_iff.mp h (wp_mono hwp (fun _ _ => id) (fun _ _ => id) ?_)
  rintro t' hne rfl
  exact hne rfl

end Crashes

/-- Undisturbed, the program comes to the rest `q` of it in the state `t`. -/
inductive Reaches : Prog ε σ α → σ → Prog ε σ α → σ → Prop where
  | refl : Reaches p s p s
  | step (hready : ready s = true) (h : Reaches (next s) (act s) q t) :
      Reaches (.step ready act next raised) s q t

namespace Reaches

theorem trans {p q r : Prog ε σ α} (h : p.Reaches s q t) (hq : q.Reaches t r u) :
    p.Reaches s r u := by
  induction h with
  | refl => exact hq
  | step hready _ ih => exact .step hready (ih hq)

theorem run {p q : Prog ε σ α} (h : p.Reaches s q t) : p.run s = q.run t := by
  induction h with
  | refl => rfl
  | step hready _ ih => rw [← ih]; exact if_pos hready

theorem crashes {p q : Prog ε σ α} (h : p.Reaches s q t) (hq : q.Crashes t s') :
    p.Crashes s s' := by
  induction h with
  | refl => exact hq
  | step hready _ ih => exact (ih hq).later hready

theorem of_returned {p : Prog ε σ α} (h : p.run s = .returned a s') (k : α → Prog ε σ β) :
    (p >>= k).Reaches s (k a) s' := by
  induction p generalizing s with
  | done b =>
    obtain ⟨rfl, rfl⟩ := Outcome.returned.inj h
    exact .refl
  | raise e => exact absurd h nofun
  | step ready act next raised ih _ =>
    have h : (if ready s then (next s).run (act s) else .blocked s) = .returned a s' := h
    split at h
    · next hready => exact .step hready (ih s h)
    · exact absurd h nofun

theorem handle {p q : Prog ε σ α} (h : p.Reaches s q t) (k : ε → Prog ε σ α) :
    (p.handle k).Reaches s (q.handle k) t := by
  induction h with
  | refl => exact .refl
  | step hready _ ih => exact .step hready ih

theorem op {f : σ → Except ε (α × σ)} (s : σ) (h : f s = .ok (a, s')) (k : α → Prog ε σ β) :
    (Prog.op f >>= k).Reaches s (k a) s' :=
  of_returned (by rw [run_op, h]) k

theorem read {f : σ → Except ε α} (s : σ) (h : f s = .ok a) (k : α → Prog ε σ β) :
    (Prog.read f >>= k).Reaches s (k a) s :=
  of_returned (by rw [run_read, h]) k

theorem ofExcept {x : Except ε α} (s : σ) (h : x = .ok a) (k : α → Prog ε σ β) :
    (Prog.ofExcept x >>= k).Reaches s (k a) s :=
  of_returned (by rw [run_ofExcept, h]) k

end Reaches

end Prog

end Paic
