import Paic.Lib.Prog

/-!
# Programs made of parts

An invariant is kept by a program when each of its parts keeps it. And a
program meets the faults of its schedule part by part: `execRest` is `exec`
with the faults that are left for what comes after.
-/

namespace Paic.Prog

-- ---------------------------------------------------------------------------
-- Keeping an invariant
-- ---------------------------------------------------------------------------

section
variable {I : σ → Prop} {p : Prog ε σ α}

theorem keeps_pure (a : α) : (pure a : Prog ε σ α).Keeps I := fun _ h => h

theorem keeps_raise (e : ε) : (.raise e : Prog ε σ α).Keeps I := fun _ h => h

theorem Keeps.bind {k : α → Prog ε σ β} (hp : p.Keeps I) (hk : ∀ a, (k a).Keeps I) :
    (p >>= k).Keeps I := by
  intro s hs
  rw [wp_bind]
  exact wp_mono (hp s hs) (fun a s' h => hk a s' h) (fun _ _ => id) fun _ => id

theorem Keeps.handle {h : ε → Prog ε σ α} (hp : p.Keeps I) (hh : ∀ e, (h e).Keeps I) :
    (p.handle h).Keeps I := by
  intro s hs
  rw [wp_handle]
  exact wp_mono (hp s hs) (fun _ _ => id) (fun e s' he => hh e s' he) fun _ => id

theorem Keeps.attempt (hp : p.Keeps I) : p.attempt.Keeps I :=
  (hp.bind fun _ => keeps_pure _).handle fun _ => keeps_pure _

theorem keeps_op {f : σ → Except ε (α × σ)} (h : ∀ s a s', I s → f s = .ok (a, s') → I s') :
    (op f).Keeps I := by
  intro s hs
  rw [wp_op]
  exact ⟨hs, fun _ => hs, fun a s' hf => h s a s' hs hf, fun _ _ => hs⟩

theorem keeps_read (f : σ → Except ε α) : (read f).Keeps I := by
  intro s hs
  rw [wp_read]
  exact ⟨hs, fun _ => hs, fun _ _ => hs⟩

theorem keeps_modify {f : σ → σ} (h : ∀ s, I s → I (f s)) : (modify f : Prog ε σ Unit).Keeps I := by
  intro s hs
  rw [wp_modify]
  exact ⟨hs, fun _ => hs, h s hs⟩

theorem keeps_touch : (touch : Prog ε σ Unit).Keeps I := keeps_modify fun _ h => h

theorem Keeps.ite {c : Prop} [Decidable c] {q : Prog ε σ α} (hp : c → p.Keeps I)
    (hq : ¬ c → q.Keeps I) : (if c then p else q).Keeps I := by
  split
  · next h => exact hp h
  · next h => exact hq h

/-- What a program keeps holds wherever it stands, whatever follows. -/
theorem Keeps.wp_bind {k : α → Prog ε σ β} (hp : p.Keeps I) (hs : I s)
    (hk : ∀ a s', I s' → (k a).wp Q E C s') (he : ∀ e s', I s' → E e s')
    (hc : ∀ s', I s' → C s') : (p >>= k).wp Q E C s := by
  rw [Prog.wp_bind]
  exact wp_mono (hp s hs) hk he hc

theorem Keeps.wp (hp : p.Keeps I) (hs : I s) (hq : ∀ a s', I s' → Q a s')
    (he : ∀ e s', I s' → E e s') (hc : ∀ s', I s' → C s') : p.wp Q E C s :=
  wp_mono (hp s hs) hq he hc

end

-- ---------------------------------------------------------------------------
-- The faults that are left
-- ---------------------------------------------------------------------------

def execRest : Prog ε σ α → List (Fault ε) → σ → Outcome ε σ α × List (Fault ε)
  | .done a, faults, s => (.returned a s, faults)
  | .raise e, faults, s => (.raised e s, faults)
  | .step _ _ _ _, .crash :: faults, s => (.crashed s, faults)
  | .step _ _ _ raised, .interrupt e :: faults, s => (raised e).execRest faults s
  | .step ready act next _, .pass :: faults, s =>
    if ready s then (next s).execRest faults (act s) else (.blocked s, faults)
  | .step ready act next _, [], s =>
    if ready s then (next s).execRest [] (act s) else (.blocked s, [])

theorem execRest_fst (p : Prog ε σ α) (faults : List (Fault ε)) (s : σ) :
    (p.execRest faults s).1 = p.exec faults s := by
  induction p generalizing faults s with
  | done a => rfl
  | raise e => rfl
  | step ready act next raised ihn ihr =>
    match faults with
    | .crash :: _ => rfl
    | .interrupt e :: rest => exact ihr e rest s
    | .pass :: rest =>
      simp only [execRest, exec]
      split
      · exact ihn s rest (act s)
      · rfl
    | [] =>
      simp only [execRest, exec]
      split
      · exact ihn s [] (act s)
      · rfl

/-- A part that returns hands on to the next, with the faults it has left. -/
theorem execRest_bind (p : Prog ε σ α) (k : α → Prog ε σ β) (faults : List (Fault ε)) (s : σ) :
    (p >>= k).execRest faults s = match p.execRest faults s with
      | (.returned a s', rest) => (k a).execRest rest s'
      | (.raised e s', rest) => (.raised e s', rest)
      | (.crashed s', rest) => (.crashed s', rest)
      | (.blocked s', rest) => (.blocked s', rest) := by
  induction p generalizing faults s with
  | done a => rfl
  | raise e => rfl
  | step ready act next raised ihn ihr =>
    match faults with
    | .crash :: _ => rfl
    | .interrupt e :: rest => exact ihr e rest s
    | .pass :: rest =>
      show (if ready s then ((next s) >>= k).execRest rest (act s) else (.blocked s, rest)) = _
      simp only [execRest]
      split
      · exact ihn s rest (act s)
      · rfl
    | [] =>
      show (if ready s then ((next s) >>= k).execRest [] (act s) else (.blocked s, [])) = _
      simp only [execRest]
      split
      · exact ihn s [] (act s)
      · rfl

theorem execRest_handle (p : Prog ε σ α) (h : ε → Prog ε σ α) (faults : List (Fault ε)) (s : σ) :
    (p.handle h).execRest faults s = match p.execRest faults s with
      | (.raised e s', rest) => (h e).execRest rest s'
      | o => o := by
  induction p generalizing faults s with
  | done a => rfl
  | raise e => rfl
  | step ready act next raised ihn ihr =>
    match faults with
    | .crash :: _ => rfl
    | .interrupt e :: rest => exact ihr e rest s
    | .pass :: rest =>
      show (if ready s then ((next s).handle h).execRest rest (act s) else (.blocked s, rest)) = _
      simp only [execRest]
      split
      · exact ihn s rest (act s)
      · rfl
    | [] =>
      show (if ready s then ((next s).handle h).execRest [] (act s) else (.blocked s, [])) = _
      simp only [execRest]
      split
      · exact ihn s [] (act s)
      · rfl

theorem execRest_attempt (p : Prog ε σ α) (faults : List (Fault ε)) (s : σ) :
    p.attempt.execRest faults s = match p.execRest faults s with
      | (.returned a s', rest) => (.returned (.ok a) s', rest)
      | (.raised e s', rest) => (.returned (.error e) s', rest)
      | (.crashed s', rest) => (.crashed s', rest)
      | (.blocked s', rest) => (.blocked s', rest) := by
  rw [attempt, execRest_handle, execRest_bind]
  rcases p.execRest faults s with ⟨o, rest⟩
  cases o <;> rfl

/-- What a run meets, its first part meets with what the rest makes of it. -/
theorem exec_bind_meets {p : Prog ε σ α} {k : α → Prog ε σ β} :
    ((p >>= k).exec faults s).Meets Q E C ↔ (p.execRest faults s).1.Meets
      (fun a s' => ((k a).exec (p.execRest faults s).2 s').Meets Q E C) E C := by
  rw [← execRest_fst, execRest_bind]
  rcases p.execRest faults s with ⟨o, rest⟩
  cases o with
  | returned a s' => rw [execRest_fst]; rfl
  | raised e s' | crashed s' | blocked s' => rfl

/-- Where no fault is left, the rest of a run is undisturbed. -/
theorem exec_of_pass (p : Prog ε σ α) (h : ∀ f ∈ faults, f = .pass) (s : σ) :
    p.exec faults s = p.run s := by
  induction p generalizing faults s with
  | done a => rfl
  | raise e => rfl
  | step ready act next raised ihn ihr =>
    match faults with
    | [] => rfl
    | f :: rest =>
      obtain rfl := h f List.mem_cons_self
      simp only [exec, run]
      split
      · exact ihn s (fun g hg => h g (List.mem_cons_of_mem _ hg)) (act s)
      · rfl

theorem wp_execRest {p : Prog ε σ α} (h : p.wp Q E C s) (faults : List (Fault ε)) :
    (p.execRest faults s).1.Meets Q E C := by
  rw [execRest_fst]
  exact exec_wp.mp h faults

end Paic.Prog
