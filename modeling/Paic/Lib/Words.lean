import Mathlib

/-!
# Words of a text

The words of a text are its longest runs of word characters. Texts are
compared by their words: joined with single blanks, one text is found in
another between blanks or ends exactly when its words stand next to each
other among the other's.
-/

namespace Paic.Words

/-- The longest runs of word characters: `re.findall("[…]+", text)`. -/
def words (isWord : Char → Bool) : List Char → List (List Char)
  | [] => []
  | c :: cs =>
    if isWord c then
      match cs, words isWord cs with
      | d :: _, w :: ws => if isWord d then (c :: w) :: ws else [c] :: w :: ws
      | _, ws => [c] :: ws
    else words isWord cs

/-- `" ".join(ws)` -/
def joined (ws : List (List Char)) : List Char := [' '].intercalate ws

/-- Where a text is found, the next character is a blank, or there is none but
for a line's end. -/
def boundary : List Char → Bool
  | [] | ['\n'] => true
  | c :: _ => c == ' '

/-- The text is found here: `text(?: |$)`. -/
def foundHere (text cs : List Char) : Bool :=
  text.isPrefixOf cs && boundary (cs.drop text.length)

/-- `(?:^| )text(?: |$)`; `start` says that here the text may begin. -/
def found (text : List Char) (start : Bool) : List Char → Bool
  | [] => start && foundHere text []
  | c :: cs => (start && foundHere text (c :: cs)) || found text (c == ' ') cs

/-- A word holds neither a blank nor a line's end. -/
def IsWord (w : List Char) : Prop := w ≠ [] ∧ ∀ c ∈ w, c ≠ ' ' ∧ c ≠ '\n'

theorem mem_words {isWord : Char → Bool} {text : List Char} (h : w ∈ words isWord text) :
    w ≠ [] ∧ ∀ c ∈ w, isWord c = true := by
  induction text generalizing w with
  | nil => exact absurd h List.not_mem_nil
  | cons c cs ih =>
    rw [words.eq_def] at h
    simp only at h
    split at h
    · next hc =>
      have hsingle : [c] ≠ [] ∧ ∀ d ∈ [c], isWord d = true :=
        ⟨List.cons_ne_nil _ _, fun d hd => by rwa [List.mem_singleton.mp hd]⟩
      split at h
      · next d cs' w' ws heq =>
        rw [heq] at ih
        split at h
        · rcases List.mem_cons.mp h with rfl | h
          · refine ⟨List.cons_ne_nil _ _, fun d hd => ?_⟩
            rcases List.mem_cons.mp hd with rfl | hd
            · exact hc
            · exact (ih (List.mem_cons_self ..)).2 d hd
          · exact ih (List.mem_cons_of_mem _ h)
        · rcases List.mem_cons.mp h with rfl | h
          · exact hsingle
          · exact ih h
      · rcases List.mem_cons.mp h with rfl | h
        · exact hsingle
        · exact ih h
    · exact ih h

-- ---------------------------------------------------------------------------
-- Joining
-- ---------------------------------------------------------------------------

@[simp] theorem joined_nil : joined [] = [] := rfl

@[simp] theorem joined_singleton (w : List Char) : joined [w] = w := by simp [joined]

@[simp] theorem joined_cons (w w' : List Char) (ws : List (List Char)) :
    joined (w :: w' :: ws) = w ++ ' ' :: joined (w' :: ws) := by
  simp [joined, List.intercalate_cons_cons]

/-- Two texts that agree up to their first blanks. -/
theorem eq_of_blank {l w a b : List Char} (hl : ∀ c ∈ l, c ≠ ' ') (hw : ∀ c ∈ w, c ≠ ' ')
    (h : l ++ ' ' :: a = w ++ ' ' :: b) : l = w ∧ a = b := by
  induction l generalizing w with
  | nil =>
    cases w with
    | nil => exact ⟨rfl, (List.cons.inj h).2⟩
    | cons c w => exact absurd (List.cons.inj h).1.symm (hw c (List.mem_cons_self ..))
  | cons c l ih =>
    cases w with
    | nil => exact absurd (List.cons.inj h).1 (hl c (List.mem_cons_self ..))
    | cons d w =>
      obtain ⟨rfl, htail⟩ := List.cons.inj h
      obtain ⟨rfl, hrest⟩ := ih (fun d hd => hl d (List.mem_cons_of_mem _ hd))
        (fun d hd => hw d (List.mem_cons_of_mem _ hd)) htail
      exact ⟨rfl, hrest⟩

/-- Joined words determine the words. -/
theorem joined_injective {ls ws : List (List Char)} (hl : ∀ l ∈ ls, IsWord l)
    (hw : ∀ w ∈ ws, IsWord w) (h : joined ls = joined ws) : ls = ws := by
  have hblank : ∀ {w}, IsWord w → ∀ c ∈ w, c ≠ ' ' := fun hw c hc => (hw.2 c hc).1
  have hmem : ∀ {w a : List Char}, ' ' ∈ w ++ ' ' :: a := by simp
  induction ls generalizing ws with
  | nil =>
    cases ws with
    | nil => rfl
    | cons w ws =>
      refine absurd ?_ (hw w (List.mem_cons_self ..)).1
      cases ws with
      | nil => simpa using h.symm
      | cons w' ws => simp at h
  | cons l ls ih =>
    have hl' := hl l (List.mem_cons_self ..)
    cases ws with
    | nil =>
      refine absurd ?_ hl'.1
      cases ls with
      | nil => simpa using h
      | cons l' ls => simp at h
    | cons w ws =>
      have hw' := hw w (List.mem_cons_self ..)
      cases ls with
      | nil =>
        cases ws with
        | nil => simpa using h
        | cons w' ws =>
          rw [joined_singleton, joined_cons] at h
          exact absurd rfl (hblank hl' ' ' (h ▸ hmem))
      | cons l' ls =>
        cases ws with
        | nil =>
          rw [joined_singleton, joined_cons] at h
          exact absurd rfl (hblank hw' ' ' (h ▸ hmem))
        | cons w' ws =>
          rw [joined_cons, joined_cons] at h
          obtain ⟨rfl, htail⟩ := eq_of_blank (hblank hl') (hblank hw') h
          rw [ih (fun x hx => hl x (List.mem_cons_of_mem _ hx))
            (fun x hx => hw x (List.mem_cons_of_mem _ hx)) htail]

-- ---------------------------------------------------------------------------
-- Searching
-- ---------------------------------------------------------------------------

theorem foundHere_iff : foundHere text cs = true ↔
    ∃ rest, cs = text ++ rest ∧ boundary rest = true := by
  rw [foundHere, Bool.and_eq_true, List.isPrefixOf_iff_prefix]
  constructor
  · rintro ⟨⟨rest, rfl⟩, h⟩
    exact ⟨rest, rfl, by simpa using h⟩
  · rintro ⟨rest, rfl, h⟩
    exact ⟨⟨rest, rfl⟩, by simpa using h⟩

/-- Joined words begin with a joined text, up to a boundary, when the words
begin with its words. -/
theorem foundHere_joined {l w : List Char} {ls ws : List (List Char)}
    (hl : ∀ x ∈ l :: ls, IsWord x) (hw : ∀ x ∈ w :: ws, IsWord x) :
    foundHere (joined (l :: ls)) (joined (w :: ws)) = true ↔ l :: ls <+: w :: ws := by
  have hplain : ∀ {x}, IsWord x → ' ' ∉ x ∧ '\n' ∉ x := fun hx =>
    ⟨fun h => (hx.2 _ h).1 rfl, fun h => (hx.2 _ h).2 rfl⟩
  rw [foundHere_iff]
  induction ls generalizing l w ws with
  | nil =>
    have hl' := hplain (hl l (List.mem_cons_self ..))
    have hw' := hplain (hw w (List.mem_cons_self ..))
    simp only [joined_singleton, List.cons_prefix_cons, List.nil_prefix, and_true]
    constructor
    · rintro ⟨rest, heq, hrest⟩
      unfold boundary at hrest
      cases ws with
      | nil =>
        rw [joined_singleton] at heq
        split at hrest
        · simpa using heq.symm
        · exact absurd (by simp [heq]) hw'.2
        · next c cs _ =>
          obtain rfl : c = ' ' := by simpa using hrest
          exact absurd (by simp [heq]) hw'.1
      | cons w' ws =>
        rw [joined_cons] at heq
        have hmem : ' ' ∈ w ++ ' ' :: joined (w' :: ws) := by simp
        split at hrest
        · rw [heq, List.append_nil] at hmem
          exact absurd hmem hl'.1
        · -- A line's end closes the text, but the blank is behind the word.
          rw [heq] at hmem
          rcases List.mem_append.mp hmem with hmem | hmem
          · exact absurd hmem hl'.1
          · exact absurd hmem (by decide)
        · next c cs _ =>
          obtain rfl : c = ' ' := by simpa using hrest
          exact (eq_of_blank (fun c hc h => hw'.1 (h ▸ hc)) (fun c hc h => hl'.1 (h ▸ hc))
            heq).1.symm
    · rintro rfl
      cases ws with
      | nil => exact ⟨[], by simp, rfl⟩
      | cons w' ws => exact ⟨' ' :: joined (w' :: ws), by simp, rfl⟩
  | cons l' ls ih =>
    have hl' := hplain (hl l (List.mem_cons_self ..))
    have hw' := hplain (hw w (List.mem_cons_self ..))
    cases ws with
    | nil =>
      rw [List.cons_prefix_cons, joined_singleton, joined_cons]
      constructor
      · rintro ⟨rest, heq, -⟩
        exact absurd (by simp [heq]) hw'.1
      · rintro ⟨-, h⟩
        exact absurd (List.prefix_nil.mp h) (List.cons_ne_nil _ _)
    | cons w' ws =>
      have hrest := ih (fun x hx => hl x (List.mem_cons_of_mem _ hx))
        fun x hx => hw x (List.mem_cons_of_mem _ hx)
      rw [List.cons_prefix_cons, joined_cons, joined_cons]
      constructor
      · rintro ⟨rest, heq, hboundary⟩
        rw [List.append_assoc, List.cons_append] at heq
        obtain ⟨rfl, hjoined⟩ := eq_of_blank (fun c hc h => hw'.1 (h ▸ hc))
          (fun c hc h => hl'.1 (h ▸ hc)) heq
        exact ⟨rfl, hrest.mp ⟨rest, hjoined, hboundary⟩⟩
      · rintro ⟨rfl, hprefix⟩
        obtain ⟨rest, heq, hboundary⟩ := hrest.mpr hprefix
        exact ⟨rest, by rw [heq]; simp, hboundary⟩

/-- Within a word nothing begins. -/
theorem found_word (hw : ' ' ∉ w) : found text false (w ++ cs) =
    match cs with
    | [] => false
    | c :: cs => found text (c == ' ') cs := by
  induction w with
  | nil => cases cs <;> rfl
  | cons c w ih =>
    have hc : (c == ' ') = false := by
      simp only [List.mem_cons, not_or] at hw
      simpa using hw.1 ∘ Eq.symm
    rw [List.cons_append, found, hc, ih fun h => hw (List.mem_cons_of_mem _ h), Bool.false_and,
      Bool.false_or]

theorem found_joined {l : List Char} {ls ws : List (List Char)} (hl : ∀ x ∈ l :: ls, IsWord x)
    (hw : ∀ x ∈ ws, IsWord x) :
    found (joined (l :: ls)) true (joined ws) = true ↔ l :: ls <:+: ws := by
  induction ws with
  | nil =>
    have hne : joined (l :: ls) ≠ [] := by
      have hl' := (hl l (List.mem_cons_self ..)).1
      cases ls <;> simp [hl']
    simp [found, foundHere, hne]
  | cons w ws ih =>
    have hrest := ih fun x hx => hw x (List.mem_cons_of_mem _ hx)
    have hw' := hw w (List.mem_cons_self ..)
    have hblank : ' ' ∉ w := fun h => (hw'.2 _ h).1 rfl
    rw [List.infix_cons_iff, ← foundHere_joined hl hw, ← hrest]
    obtain ⟨c, w, rfl⟩ := List.exists_cons_of_ne_nil hw'.1
    simp only [List.mem_cons, not_or] at hblank
    have hc : (c == ' ') = false := by simpa using hblank.1 ∘ Eq.symm
    have hstep : ∀ cs, found (joined (l :: ls)) true (c :: w ++ cs) = true ↔
        foundHere (joined (l :: ls)) (c :: w ++ cs) = true ∨
          found (joined (l :: ls)) false (w ++ cs) = true := by
      intro cs
      rw [List.cons_append, found, hc, Bool.or_eq_true, Bool.true_and]
    cases ws with
    | nil =>
      have hnone : found (joined (l :: ls)) true (joined []) = false := by
        simpa using hrest
      rw [hnone, joined_singleton, ← List.append_nil (c :: w), hstep, found_word hblank.2]
    | cons w' ws =>
      rw [joined_cons, hstep, found_word hblank.2]
      rfl

end Paic.Words
