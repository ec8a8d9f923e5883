import Mathlib

/-!
# Replacing terms in a text

`re.sub` of a plain term: the text is read from the left, and where the term
is found a mark takes its place. `same p c` says that a letter of the term
matches a character of the text, whatever that means: the case may not count.

Several terms are replaced one after the other, each in all of the text. That
comes to one reading of the text in which the first of the terms goes wherever
one is found, as long as no term begins inside a later one and the marks hold
none; and what one reading finds tells the length of the text that it leaves.
-/

namespace Paic.Replace

section
variable (same : Char → Char → Bool)

/-- The term is found at the beginning of the text. -/
def begins : List Char → List Char → Bool
  | [], _ => true
  | _ :: _, [] => false
  | p :: term, c :: text => same p c && begins term text

/-- `re.sub(term, mark, text)`; the first `n` characters are gone already. -/
def sub (mark term : List Char) : Nat → List Char → List Char
  | _, [] => []
  | n + 1, _ :: text => sub mark term n text
  | 0, c :: text =>
    if begins same term (c :: text) then mark ++ sub mark term (term.length - 1) text
    else c :: sub mark term 0 text

/-- The first of the terms that the text begins with. -/
def first (terms : List (List Char)) (text : List Char) : Option (List Char) :=
  terms.find? fun term => begins same term text

/-- All the terms replaced in one reading. -/
def subAll (mark : List Char) (terms : List (List Char)) : Nat → List Char → List Char
  | _, [] => []
  | n + 1, _ :: text => subAll mark terms n text
  | 0, c :: text =>
    match first same terms (c :: text) with
    | some term => mark ++ subAll mark terms (term.length - 1) text
    | none => c :: subAll mark terms 0 text

/-- The terms that one reading finds. -/
def found (terms : List (List Char)) : Nat → List Char → List (List Char)
  | _, [] => []
  | n + 1, _ :: text => found terms n text
  | 0, c :: text =>
    match first same terms (c :: text) with
    | some term => term :: found terms (term.length - 1) text
    | none => found terms 0 text

end

section
variable {same : Char → Char → Bool} {mark term other : List Char} {terms : List (List Char)}

theorem begins_length (h : begins same term text = true) : term.length ≤ text.length := by
  induction term generalizing text with
  | nil => exact Nat.zero_le _
  | cons p term ih =>
    cases text with
    | nil => exact absurd h nofun
    | cons c text =>
      simp only [begins, Bool.and_eq_true] at h
      exact Nat.succ_le_succ (ih h.2)

theorem begins_drop (n : Nat) (h : begins same term text = true) :
    begins same (term.drop n) (text.drop n) = true := by
  induction n generalizing term text with
  | zero => simpa using h
  | succ n ih =>
    cases term with
    | nil => simp [begins]
    | cons p term =>
      cases text with
      | nil => exact absurd h nofun
      | cons c text =>
        simp only [begins, Bool.and_eq_true] at h
        simpa using ih h.2

theorem begins_take (h : begins same term text = true) (rest : List Char) :
    begins same term (text.take term.length ++ rest) = true := by
  induction term generalizing text with
  | nil => simp [begins]
  | cons p term ih =>
    cases text with
    | nil => exact absurd h nofun
    | cons c text =>
      simp only [begins, Bool.and_eq_true] at h
      simp [begins, h.1, ih h.2]

theorem sub_drop (n : Nat) (text : List Char) :
    sub same mark term n text = sub same mark term 0 (text.drop n) := by
  induction n generalizing text with
  | zero => rfl
  | succ n ih =>
    cases text with
    | nil => rfl
    | cons c text => exact ih text

theorem subAll_drop (n : Nat) (text : List Char) :
    subAll same mark terms n text = subAll same mark terms 0 (text.drop n) := by
  induction n generalizing text with
  | zero => rfl
  | succ n ih =>
    cases text with
    | nil => rfl
    | cons c text => exact ih text

theorem found_drop (n : Nat) (text : List Char) :
    found same terms n text = found same terms 0 (text.drop n) := by
  induction n generalizing text with
  | zero => rfl
  | succ n ih =>
    cases text with
    | nil => rfl
    | cons c text => exact ih text

theorem sub_begins (hterm : term ≠ []) (h : begins same term text = true) :
    sub same mark term 0 text = mark ++ sub same mark term 0 (text.drop term.length) := by
  obtain ⟨p, term, rfl⟩ := List.exists_cons_of_ne_nil hterm
  cases text with
  | nil => exact absurd h nofun
  | cons c text => rw [sub, if_pos h, sub_drop, List.length_cons, List.drop_succ_cons,
      Nat.add_sub_cancel]

theorem subAll_first (hterm : term ≠ []) (htext : text ≠ [])
    (h : first same terms text = some term) :
    subAll same mark terms 0 text = mark ++ subAll same mark terms 0 (text.drop term.length) := by
  obtain ⟨p, term, rfl⟩ := List.exists_cons_of_ne_nil hterm
  obtain ⟨c, text, rfl⟩ := List.exists_cons_of_ne_nil htext
  simp only [subAll, h]
  rw [subAll_drop, List.length_cons, List.drop_succ_cons, Nat.add_sub_cancel]

theorem found_first (hterm : term ≠ []) (htext : text ≠ [])
    (h : first same terms text = some term) :
    found same terms 0 text = term :: found same terms 0 (text.drop term.length) := by
  obtain ⟨p, term, rfl⟩ := List.exists_cons_of_ne_nil hterm
  obtain ⟨c, text, rfl⟩ := List.exists_cons_of_ne_nil htext
  simp only [found, h]
  rw [found_drop, List.length_cons, List.drop_succ_cons, Nat.add_sub_cancel]

theorem first_some (h : first same terms text = some term) :
    term ∈ terms ∧ begins same term text = true :=
  ⟨List.mem_of_find?_eq_some h, by simpa using List.find?_some h⟩

/-- What replacing a term adds to a text. -/
def growth (mark term : List Char) : Int := mark.length - term.length

/-- The text grows by what the terms that are found in it add. -/
theorem subAll_length (hterms : ∀ term ∈ terms, term ≠ []) (text : List Char) :
    ((subAll same mark terms 0 text).length : Int) =
      text.length + ((found same terms 0 text).map (growth mark)).sum := by
  induction hn : text.length using Nat.strongRecOn generalizing text with
  | _ n ih =>
    subst hn
    cases text with
    | nil => simp [subAll, found]
    | cons c text =>
      cases h : first same terms (c :: text) with
      | none =>
        have hrest := ih text.length (Nat.lt_succ_self _) text rfl
        simp only [subAll, found, h, List.length_cons]
        omega
      | some term =>
        obtain ⟨hmem, hbegins⟩ := first_some h
        have hpos := List.length_pos_iff.mpr (hterms term hmem)
        have hle := begins_length hbegins
        have hrest := ih ((c :: text).drop term.length).length
          (by rw [List.length_drop]; omega) _ rfl
        rw [subAll_first (hterms term hmem) (List.cons_ne_nil _ _) h,
          found_first (hterms term hmem) (List.cons_ne_nil _ _) h, List.length_append,
          List.map_cons, List.sum_cons, growth]
        rw [List.length_drop] at hrest
        omega

theorem sub_ne_nil (hmark : mark ≠ []) (htext : text ≠ []) : sub same mark term 0 text ≠ [] := by
  obtain ⟨c, text, rfl⟩ := List.exists_cons_of_ne_nil htext
  rw [sub]
  split
  · exact List.append_ne_nil_of_left_ne_nil hmark _
  · exact List.cons_ne_nil _ _

-- ---------------------------------------------------------------------------
-- Terms that stand apart
-- ---------------------------------------------------------------------------

/-- The two texts do not differ as far as both go. -/
def agree : List Char → List Char → Bool
  | p :: term, q :: other => p == q && agree term other
  | _, _ => true

/-- The other term does not begin inside this one, behind its beginning. -/
def Clear (term other : List Char) : Prop :=
  ∀ n < term.length, n ≠ 0 → agree (term.drop n) other = false

instance (term other : List Char) : Decidable (Clear term other) := by
  unfold Clear; infer_instance

/-- No character of a text matches two of the letters. -/
def Distinct (same : Char → Char → Bool) (letters : List Char) : Prop :=
  ∀ p ∈ letters, ∀ q ∈ letters, ∀ c, same p c = true → same q c = true → p = q

theorem agree_of_begins {letters : List Char} (hd : Distinct same letters)
    (hterm : ∀ p ∈ term, p ∈ letters) (hother : ∀ p ∈ other, p ∈ letters)
    (h : begins same term text = true) (h' : begins same other text = true) :
    agree term other = true := by
  induction term generalizing other text with
  | nil => simp [agree]
  | cons p term ih =>
    cases other with
    | nil => simp [agree]
    | cons q other =>
      cases text with
      | nil => exact absurd h nofun
      | cons c text =>
        simp only [begins, Bool.and_eq_true] at h h'
        have heq := hd p (hterm p (List.mem_cons_self ..)) q (hother q (List.mem_cons_self ..)) c
          h.1 h'.1
        rw [agree, ih (fun x hx => hterm x (List.mem_cons_of_mem _ hx))
          (fun x hx => hother x (List.mem_cons_of_mem _ hx)) h.2 h'.2]
        simp [heq]

/-- A text that begins with a word whose characters only match their own letter. -/
theorem agree_of_begins_append {word rest : List Char} {letter : Char → Char}
    (hletter : ∀ p ∈ term, ∀ c ∈ word, same p c = true → p = letter c)
    (h : begins same term (word ++ rest) = true) : agree term (word.map letter) = true := by
  induction term generalizing word with
  | nil => simp [agree]
  | cons p term ih =>
    cases word with
    | nil => simp [agree]
    | cons c word =>
      simp only [List.cons_append, begins, Bool.and_eq_true] at h
      have heq := hletter p (List.mem_cons_self ..) c (List.mem_cons_self ..) h.1
      rw [List.map_cons, agree, ih (fun q hq d hd => hletter q (List.mem_cons_of_mem _ hq) d
        (List.mem_cons_of_mem _ hd)) h.2]
      simp [heq]

/-- Where this term is found, the other does not begin before its end. -/
theorem Clear.not_begins {letters : List Char} (hclear : Clear term other)
    (hd : Distinct same letters) (hterm : ∀ p ∈ term, p ∈ letters)
    (hother : ∀ p ∈ other, p ∈ letters) (h : begins same term text = true)
    (hnot : begins same other text = false) :
    ∀ n < term.length, begins same other (text.drop n) = false := by
  intro n hn
  by_cases hzero : n = 0
  · rwa [hzero, List.drop_zero]
  · refine Bool.eq_false_iff.mpr fun h' => ?_
    have hagree := agree_of_begins hd (fun p hp => hterm p (List.mem_of_mem_drop hp)) hother
      (begins_drop n h) h'
    rw [hclear n hn hzero] at hagree
    exact absurd hagree nofun

theorem sub_skip {n : Nat} (hn : n ≤ text.length)
    (h : ∀ k < n, begins same term (text.drop k) = false) :
    sub same mark term 0 text = text.take n ++ sub same mark term 0 (text.drop n) := by
  induction n generalizing text with
  | zero => rfl
  | succ n ih =>
    cases text with
    | nil => exact absurd hn (Nat.not_succ_le_zero _)
    | cons c text =>
      have hfirst := h 0 (Nat.zero_lt_succ _)
      rw [List.drop_zero] at hfirst
      rw [sub, if_neg (by simp [hfirst]), ih (Nat.le_of_succ_le_succ hn)
        fun k hk => h (k + 1) (Nat.succ_lt_succ hk)]
      rfl

theorem subAll_skip {n : Nat} (hn : n ≤ text.length)
    (h : ∀ k < n, first same terms (text.drop k) = none) :
    subAll same mark terms 0 text = text.take n ++ subAll same mark terms 0 (text.drop n) := by
  induction n generalizing text with
  | zero => rfl
  | succ n ih =>
    cases text with
    | nil => exact absurd hn (Nat.not_succ_le_zero _)
    | cons c text =>
      have hfirst := h 0 (Nat.zero_lt_succ _)
      rw [List.drop_zero] at hfirst
      simp only [subAll, hfirst]
      rw [ih (Nat.le_of_succ_le_succ hn) fun k hk => h (k + 1) (Nat.succ_lt_succ hk)]
      rfl

-- ---------------------------------------------------------------------------
-- One term after the other
-- ---------------------------------------------------------------------------

/-- The mark holds nothing of the term: none begins in it, and none that begins
before it goes on in it. -/
structure Marks (same : Char → Char → Bool) (mark term : List Char) : Prop where
  inside : ∀ n < mark.length, ∀ rest, begins same term (mark.drop n ++ rest) = false
  before : ∀ p ∈ term, ∀ c ∈ mark.head?, same p c = false

theorem begins_of_sub (hbefore : ∀ p ∈ other, ∀ c ∈ mark.head?, same p c = false)
    (hterm : term ≠ []) (hmark : mark ≠ [])
    (h : begins same other (sub same mark term 0 text) = true) : begins same other text = true := by
  induction other generalizing text with
  | nil => simp [begins]
  | cons q other ih =>
    cases text with
    | nil => exact h
    | cons c text =>
      by_cases hfound : begins same term (c :: text) = true
      · obtain ⟨m, mark, rfl⟩ := List.exists_cons_of_ne_nil hmark
        rw [sub_begins hterm hfound, List.cons_append, begins,
          hbefore q (List.mem_cons_self ..) m rfl] at h
        exact absurd h nofun
      · rw [sub, if_neg hfound] at h
        simp only [begins, Bool.and_eq_true] at h ⊢
        exact ⟨h.1, ih (fun p hp => hbefore p (List.mem_cons_of_mem _ hp)) h.2⟩

/-- The term is found nowhere in the text. -/
def Free (same : Char → Char → Bool) (term text : List Char) : Prop :=
  ∀ n < text.length, begins same term (text.drop n) = false

/-- A text without the term stays as it is. -/
theorem sub_of_free (h : Free same term text) : sub same mark term 0 text = text := by
  induction text with
  | nil => rfl
  | cons c text ih =>
    have hhead : begins same term (c :: text) = false := h 0 (Nat.zero_lt_succ _)
    rw [sub, if_neg (by simp [hhead])]
    exact congrArg (c :: ·) (ih fun n hn => h (n + 1) (Nat.succ_lt_succ hn))

/-- A term is found nowhere any more when it was found with the replaced one only. -/
theorem free_sub (hmarks : Marks same mark other) (hterm : term ≠ []) (hmark : mark ≠ [])
    (h : ∀ n < text.length, begins same other (text.drop n) = true →
      begins same term (text.drop n) = true) : Free same other (sub same mark term 0 text) := by
  induction hn : text.length using Nat.strongRecOn generalizing text with
  | _ n ih =>
    subst hn
    cases text with
    | nil => exact fun n hn => absurd hn (Nat.not_lt_zero n)
    | cons c text =>
      by_cases hfound : begins same term (c :: text) = true
      · have hle : term.length - 1 ≤ text.length :=
          Nat.sub_le_of_le_add (begins_length hfound)
        have hrest : Free same other (sub same mark term 0 ((c :: text).drop term.length)) := by
          have hpos := List.length_pos_of_ne_nil hterm
          refine ih _ (by rw [List.length_drop, List.length_cons]; omega) (fun n hn hbegins => ?_) rfl
          rw [List.length_drop] at hn
          rw [List.drop_drop] at hbegins ⊢
          exact h _ (by omega) hbegins
        rw [sub_begins hterm hfound]
        intro n hn
        rcases Nat.lt_or_ge n mark.length with hlt | hge
        · rw [List.drop_append_of_le_length (Nat.le_of_lt hlt)]
          exact hmarks.inside n hlt _
        · rw [List.length_append] at hn
          rw [List.drop_append, List.drop_of_length_le hge, List.nil_append]
          exact hrest _ (by omega)
      · have hstep : sub same mark term 0 (c :: text) = c :: sub same mark term 0 text := by
          rw [sub, if_neg hfound]
        have hrest : Free same other (sub same mark term 0 text) :=
          ih _ (by simp) (fun n hn => h (n + 1) (Nat.succ_lt_succ hn)) rfl
        rw [hstep]
        intro n hn
        cases n with
        | succ n => exact hrest n (Nat.lt_of_succ_lt_succ hn)
        | zero =>
          refine Bool.eq_false_iff.mpr fun hbegins => hfound ?_
          have hold := begins_of_sub hmarks.before hterm hmark (hstep ▸ hbegins)
          exact h 0 (Nat.zero_lt_succ _) hold

/-- What is free of a term stays so. -/
theorem Free.foldl (h : Free same term text) (hmarks : Marks same mark term) (hmark : mark ≠ [])
    (hne : ∀ other ∈ terms, other ≠ []) :
    Free same term (terms.foldl (fun text other => sub same mark other 0 text) text) := by
  induction terms generalizing text with
  | nil => exact h
  | cons other terms ih =>
    obtain ⟨hother, hne⟩ := List.forall_mem_cons.mp hne
    refine ih (free_sub hmarks hother hmark fun n hn hbegins => ?_) hne
    rw [h n hn] at hbegins
    exact absurd hbegins nofun

/-- After all the replacements none of the terms is found. -/
theorem free_foldl (hmark : mark ≠ []) (hne : ∀ term ∈ terms, term ≠ [])
    (hmarks : ∀ term ∈ terms, Marks same mark term) (text : List Char) (hterm : term ∈ terms) :
    Free same term (terms.foldl (fun text term => sub same mark term 0 text) text) := by
  induction terms generalizing text with
  | nil => exact absurd hterm List.not_mem_nil
  | cons other terms ih =>
    obtain ⟨hother, hrest⟩ := List.forall_mem_cons.mp hne
    rcases List.mem_cons.mp hterm with rfl | hterm
    · exact (free_sub (hmarks _ List.mem_cons_self) hother hmark fun _ _ h => h).foldl
        (hmarks _ List.mem_cons_self) hmark hrest
    · exact ih hrest (fun t ht => hmarks t (List.mem_cons_of_mem _ ht)) _ hterm

/-- Replacing nothing. -/
theorem foldl_of_free (h : ∀ term ∈ terms, Free same term text) :
    terms.foldl (fun text term => sub same mark term 0 text) text = text := by
  induction terms with
  | nil => rfl
  | cons term terms ih =>
    obtain ⟨hterm, hrest⟩ := List.forall_mem_cons.mp h
    rw [List.foldl_cons, sub_of_free hterm, ih hrest]

/-- What the terms and the mark have to do with each other. -/
structure Apart (same : Char → Char → Bool) (mark letters : List Char)
    (terms : List (List Char)) : Prop where
  distinct : Distinct same letters
  mark_ne_nil : mark ≠ []
  ne_nil : ∀ term ∈ terms, term ≠ []
  spelled : ∀ term ∈ terms, ∀ p ∈ term, p ∈ letters
  marks : ∀ term ∈ terms, Marks same mark term
  clear : terms.Pairwise fun term other => Clear other term

/-- A term that is replaced first is the first that one reading looks for. -/
theorem subAll_sub {letters : List Char} (h : Apart same mark letters (term :: terms))
    (text : List Char) : subAll same mark terms 0 (sub same mark term 0 text) =
      subAll same mark (term :: terms) 0 text := by
  have hterm := h.ne_nil term (List.mem_cons_self ..)
  have hrest : ∀ other ∈ terms, other ≠ [] ∧ Marks same mark other ∧ Clear other term := fun other
    hmem => ⟨h.ne_nil other (List.mem_cons_of_mem _ hmem), h.marks other (List.mem_cons_of_mem _ hmem),
      (List.pairwise_cons.mp h.clear).1 other hmem⟩
  induction hn : text.length using Nat.strongRecOn generalizing text with
  | _ n ih =>
    subst hn
    cases text with
    | nil => rfl
    | cons c text =>
      by_cases hbegins : begins same term (c :: text) = true
      · have hle := begins_length hbegins
        have hpos := List.length_pos_iff.mpr hterm
        have hfirst : first same (term :: terms) (c :: text) = some term := by
          rw [first, List.find?_cons, hbegins]
        have hmarked : ∀ k < mark.length, first same terms
            ((mark ++ sub same mark term 0 ((c :: text).drop term.length)).drop k) = none := by
          intro k hk
          rw [first, List.find?_eq_none, List.drop_append_of_le_length (Nat.le_of_lt hk)]
          intro other hmem
          simp [(hrest other hmem).2.1.inside k hk]
        rw [sub_begins hterm hbegins, subAll_skip (by simp) hmarked, List.take_left,
          List.drop_left, subAll_first hterm (List.cons_ne_nil _ _) hfirst,
          ih _ (by rw [List.length_drop, List.length_cons]; omega) _ rfl]
      · have hfirst : first same (term :: terms) (c :: text) = first same terms (c :: text) := by
          rw [first, List.find?_cons, Bool.eq_false_iff.mpr hbegins]
          rfl
        -- What the text begins with once this term is gone, it began with before.
        have hof : ∀ other ∈ terms, begins same other (sub same mark term 0 (c :: text)) = true →
            begins same other (c :: text) = true := fun other hmem =>
          begins_of_sub (hrest other hmem).2.1.before hterm h.mark_ne_nil
        cases hsome : first same terms (c :: text) with
        | none =>
          have hnone : first same terms (sub same mark term 0 (c :: text)) = none := by
            rw [first, List.find?_eq_none] at hsome ⊢
            exact fun other hmem hb => hsome other hmem (hof other hmem hb)
          have hstep := ih text.length (Nat.lt_succ_self _) text rfl
          rw [sub, if_neg hbegins] at hnone ⊢
          simp only [subAll, hnone, hfirst, hsome, hstep]
        | some other =>
          obtain ⟨hmem, hother⟩ := first_some hsome
          obtain ⟨hne, -, hclear⟩ := hrest other hmem
          have hle := begins_length hother
          have hpos := List.length_pos_iff.mpr hne
          have hskip : sub same mark term 0 (c :: text) =
              (c :: text).take other.length ++ sub same mark term 0 ((c :: text).drop other.length) :=
            sub_skip hle (hclear.not_begins h.distinct
              (h.spelled other (List.mem_cons_of_mem _ hmem))
              (h.spelled term (List.mem_cons_self ..)) hother (Bool.eq_false_iff.mpr hbegins))
          have hkept : first same terms (sub same mark term 0 (c :: text)) = some other := by
            rw [first, List.find?_eq_some_iff_append] at hsome ⊢
            obtain ⟨-, before, after, hsplit, hbefore⟩ := hsome
            refine ⟨by rw [hskip]; exact begins_take hother _, before, after, hsplit, ?_⟩
            intro earlier hearlier
            have hmem' : earlier ∈ terms := hsplit ▸ List.mem_append_left _ hearlier
            have hnot := hbefore earlier hearlier
            simp only [Bool.not_eq_true', Bool.eq_false_iff] at hnot ⊢
            exact fun hb => hnot (hof earlier hmem' hb)
          have hsub : sub same mark term 0 (c :: text) ≠ [] := by
            rw [sub, if_neg hbegins]
            exact List.cons_ne_nil _ _
          rw [subAll_first hne (List.cons_ne_nil _ _) (hfirst.trans hsome),
            subAll_first hne hsub hkept, hskip,
            List.drop_left' (List.length_take_of_le hle),
            ih _ (by rw [List.length_drop, List.length_cons]; omega) _ rfl]

/-- Replacing the terms one after the other is one reading. -/
theorem foldl_sub {letters : List Char} (h : Apart same mark letters terms) (text : List Char) :
    terms.foldl (fun text term => sub same mark term 0 text) text =
      subAll same mark terms 0 text := by
  induction terms generalizing text with
  | nil =>
    induction text with
    | nil => rfl
    | cons c text ih =>
      rw [List.foldl_nil] at ih ⊢
      simp only [subAll, first, List.find?_nil, ← ih]
  | cons term terms ih =>
    rw [List.foldl_cons, ih ⟨h.distinct, h.mark_ne_nil, fun t ht => h.ne_nil t (.tail _ ht),
      fun t ht => h.spelled t (.tail _ ht), fun t ht => h.marks t (.tail _ ht),
      (List.pairwise_cons.mp h.clear).2⟩, subAll_sub h]

end

end Paic.Replace
