import Paic.Tools.AuditText
import Paic.Tools.Gateway

/-!
# What redaction leaves in a record

A text that was redacted holds no path, so that redacting twice changes
nothing. Redaction does not look at keys, and the tool's name is written
beside the redacted request as it came.
-/

namespace Paic.Tools

-- ---------------------------------------------------------------------------
-- Texts
-- ---------------------------------------------------------------------------

section
variable [UnicodeText]

/-- No path starts anywhere in the text. -/
def pathFree : List Char → Bool
  | [] => true
  | c :: cs => pathLength (c :: cs) == 0 && pathFree cs

/-- The text starts with a character that a path may go on with. -/
def StartsPath (cs : List Char) : Prop := ∃ c rest, cs = c :: rest ∧ isPathChar c = true

theorem takeWhile_ne_zero : (cs.takeWhile isPathChar).length ≠ 0 ↔ StartsPath cs := by
  unfold StartsPath
  cases cs with
  | nil => simp
  | cons c rest =>
    rw [List.takeWhile_cons]
    split
    · next h => simp [h]
    · next h => simp [h]

theorem slashLength_ne_zero : slashLength cs ≠ 0 ↔ ∃ rest, cs = '/' :: rest ∧ StartsPath rest := by
  rw [slashLength.eq_def]
  split
  · next rest =>
    simp only [List.cons.injEq, true_and, exists_eq_left', ← takeWhile_ne_zero]
    split <;> simp_all
  · next h =>
    simp only [ne_eq, not_true_eq_false, false_iff, not_exists, not_and]
    rintro rest rfl
    exact absurd rfl (h rest)

theorem driveLength_ne_zero : driveLength cs ≠ 0 ↔
    ∃ c rest, cs = c :: ':' :: '\\' :: rest ∧ c.isAlpha = true ∧ StartsPath rest := by
  rw [driveLength.eq_def]
  split
  · next c rest =>
    have hpath : (rest.takeWhile isPathChar).length ≠ 0 ↔ StartsPath rest := takeWhile_ne_zero
    simp only [List.cons.injEq, true_and]
    constructor
    · intro h
      split at h
      · exact absurd rfl h
      · next hnot =>
        rw [not_or, Bool.not_eq_false] at hnot
        exact ⟨c, rest, ⟨rfl, rfl⟩, hnot.1, hpath.mp hnot.2⟩
    · rintro ⟨_, _, ⟨rfl, rfl⟩, halpha, hstarts⟩
      rw [if_neg (by simp [halpha, hpath.mpr hstarts])]
      exact Nat.succ_ne_zero _
  · next h =>
    simp only [ne_eq, not_true_eq_false, false_iff, not_exists, not_and]
    rintro c rest rfl
    exact absurd rfl (h c rest)

/-- Where a path starts: at a slash, behind `file:`, or at a drive. -/
theorem pathLength_ne_zero : pathLength cs ≠ 0 ↔
    (∃ rest, cs = '/' :: rest ∧ StartsPath rest) ∨
    (∃ rest, cs = 'f' :: 'i' :: 'l' :: 'e' :: ':' :: '/' :: rest ∧ StartsPath rest) ∨
    ∃ c rest, cs = c :: ':' :: '\\' :: rest ∧ c.isAlpha = true ∧ StartsPath rest := by
  have hfirst : ∀ file slash drive : Nat,
      (if file ≠ 0 then file else if slash ≠ 0 then slash else drive) ≠ 0 ↔
        slash ≠ 0 ∨ file ≠ 0 ∨ drive ≠ 0 := by
    intro file slash drive
    split
    · omega
    · split <;> omega
  unfold pathLength
  refine (hfirst _ _ _).trans (or_congr slashLength_ne_zero (or_congr ?_ driveLength_ne_zero))
  split
  · next rest =>
    have hslash : slashLength rest ≠ 0 ↔ ∃ rest', rest = '/' :: rest' ∧ StartsPath rest' :=
      slashLength_ne_zero
    simp only [List.cons.injEq, true_and]
    rw [← hslash]
    split <;> simp_all
  · next h =>
    simp only [ne_eq, not_true_eq_false, false_iff, not_exists, not_and]
    rintro rest rfl
    exact absurd rfl (h _)

/-- A text with neither a slash nor a colon. -/
theorem pathFree_of_plain (h : ∀ c ∈ cs, c ≠ '/' ∧ c ≠ ':') : pathFree cs = true := by
  induction cs with
  | nil => rfl
  | cons c rest ih =>
    rw [pathFree, ih fun d hd => h d (List.mem_cons_of_mem _ hd), Bool.and_true, beq_iff_eq]
    refine Decidable.not_not.mp fun hne => ?_
    rcases pathLength_ne_zero.mp hne with ⟨_, heq, -⟩ | ⟨_, heq, -⟩ | ⟨_, _, heq, -⟩
    · exact (h '/' (heq ▸ List.mem_cons_self)).1 rfl
    · exact (h '/' (by rw [heq]; simp)).1 rfl
    · exact (h ':' (by rw [heq]; simp)).2 rfl

/-- A text without a path is not changed. -/
theorem redactChars_of_pathFree (h : pathFree cs = true) : redactChars 0 cs = cs := by
  induction cs with
  | nil => rfl
  | cons c rest ih =>
    simp only [pathFree, Bool.and_eq_true, beq_iff_eq] at h
    rw [redactChars, h.1]
    exact congrArg (c :: ·) (ih h.2)

theorem redactChars_cons (h : pathLength (c :: cs) = 0) :
    redactChars 0 (c :: cs) = c :: redactChars 0 cs := by
  rw [redactChars, h]

theorem redactChars_path (h : pathLength (c :: cs) ≠ 0) : ∃ n,
    redactChars 0 (c :: cs) = "[PATH_REDACTED]".toList ++ redactChars n cs := by
  rw [redactChars]
  cases hlength : pathLength (c :: cs) with
  | zero => exact absurd hlength h
  | succ n => exact ⟨n, rfl⟩

/-- What a redacted text starts with was there, unless it is a bracket. -/
theorem redactChars_starts (h : redactChars 0 cs = c :: rest) (hc : c ≠ '[') :
    ∃ rest', cs = c :: rest' ∧ rest = redactChars 0 rest' := by
  cases cs with
  | nil => exact absurd h nofun
  | cons d rest' =>
    by_cases hpath : pathLength (d :: rest') = 0
    · rw [redactChars_cons hpath] at h
      obtain ⟨rfl, rfl⟩ := List.cons.inj h
      exact ⟨rest', rfl, rfl⟩
    · obtain ⟨n, heq⟩ := redactChars_path hpath
      rw [heq] at h
      exact absurd (List.cons.inj h).1.symm hc

variable [UnicodeLaws]

theorem isPathChar_start (h : c = '/' ∨ c.isAlpha = true) : isPathChar c = true := by
  have hchars : ∀ n < 128, Char.ofNat n = '/' ∨ (Char.ofNat n).isAlpha = true →
      (Char.ofNat n).isWhitespace = false ∧ Char.ofNat n ∉ ['\x0b', '\x0c', '\x1c', '\x1d', '\x1e',
        '\x1f'] ∧ Char.ofNat n ≠ '\'' ∧ Char.ofNat n ≠ '"' ∧ Char.ofNat n ≠ '\\' := by decide
  have hascii : c.toNat < 128 := by
    rcases h with rfl | h
    · decide
    · simp only [Char.isAlpha, Char.isUpper, Char.isLower, Bool.or_eq_true, Bool.and_eq_true,
        decide_eq_true_eq] at h
      have hle : c.val ≤ 122 := by
        rcases h with h | h
        · exact UInt32.le_trans h.2 (by decide : 'Z'.val ≤ 122)
        · exact h.2
      exact Nat.lt_of_le_of_lt hle (by decide)
  have hc := hchars c.toNat hascii
  rw [Char.ofNat_toNat] at hc
  obtain ⟨hspace, hcontrol, hsingle, hdouble, hback⟩ := hc h
  simp [isPathChar, UnicodeLaws.isSpace_ascii c hascii, hspace, hsingle, hdouble, hback]
  simpa using hcontrol

/-- A path starts with a character of a path. -/
theorem startsPath_of_path (h : pathLength cs ≠ 0) : StartsPath cs := by
  rcases pathLength_ne_zero.mp h with ⟨rest, rfl, -⟩ | ⟨rest, rfl, -⟩ | ⟨c, rest, rfl, halpha, -⟩
  · exact ⟨'/', rest, rfl, isPathChar_start (.inl rfl)⟩
  · exact ⟨'f', _, rfl, isPathChar_start (.inr (by decide))⟩
  · exact ⟨c, _, rfl, isPathChar_start (.inr halpha)⟩

/-- Redaction starts no path character before what had none. -/
theorem StartsPath.of_redact (h : StartsPath (redactChars 0 cs)) : StartsPath cs := by
  cases cs with
  | nil => exact h
  | cons d rest =>
    by_cases hpath : pathLength (d :: rest) = 0
    · rw [redactChars_cons hpath] at h
      obtain ⟨c, rest', heq, hc⟩ := h
      exact ⟨d, rest, rfl, (List.cons.inj heq).1 ▸ hc⟩
    · exact startsPath_of_path hpath

/-- No path comes about behind a character at which none started. -/
theorem pathLength_redact (h : pathLength (c :: cs) = 0) :
    pathLength (c :: redactChars 0 cs) = 0 := by
  refine Decidable.not_not.mp fun hne => ?_
  rcases pathLength_ne_zero.mp hne with ⟨rest, heq, hstarts⟩ | ⟨rest, heq, hstarts⟩ |
    ⟨d, rest, heq, halpha, hstarts⟩
  · obtain ⟨rfl, rfl⟩ := List.cons.inj heq
    exact absurd h (pathLength_ne_zero.mpr (.inl ⟨_, rfl, hstarts.of_redact⟩))
  · obtain ⟨rfl, hi⟩ := List.cons.inj heq
    obtain ⟨cs, rfl, hl⟩ := redactChars_starts hi (by decide)
    obtain ⟨cs, rfl, he⟩ := redactChars_starts hl.symm (by decide)
    obtain ⟨cs, rfl, hcolon⟩ := redactChars_starts he.symm (by decide)
    obtain ⟨cs, rfl, hslash⟩ := redactChars_starts hcolon.symm (by decide)
    obtain ⟨cs, rfl, rfl⟩ := redactChars_starts hslash.symm (by decide)
    exact absurd h (pathLength_ne_zero.mpr (.inr (.inl ⟨_, rfl, hstarts.of_redact⟩)))
  · obtain ⟨rfl, hcolon⟩ := List.cons.inj heq
    obtain ⟨cs, rfl, hback⟩ := redactChars_starts hcolon (by decide)
    obtain ⟨cs, rfl, rfl⟩ := redactChars_starts hback.symm (by decide)
    exact absurd h (pathLength_ne_zero.mpr (.inr (.inr ⟨_, _, rfl, halpha, hstarts.of_redact⟩)))

omit [UnicodeLaws] in
/-- No path starts in a text that ends with a bracket, before what follows. -/
theorem pathFree_behind {mark : List Char} (hmark : ∀ c ∈ mark, c ≠ '/' ∧ c ≠ ':' ∧ c ≠ 'f')
    (h : pathFree cs = true) : pathFree (mark ++ ']' :: cs) = true := by
  have hnone : ∀ c rest, c ≠ '/' → c ≠ 'f' → (c.isAlpha = false ∨ rest.head? ≠ some ':') →
      pathLength (c :: rest) = 0 := by
    intro c rest hslash hf hdrive
    refine Decidable.not_not.mp fun hne => ?_
    rcases pathLength_ne_zero.mp hne with ⟨_, heq, -⟩ | ⟨_, heq, -⟩ | ⟨_, _, heq, halpha, -⟩
    · exact hslash (List.cons.inj heq).1
    · exact hf (List.cons.inj heq).1
    · obtain ⟨rfl, rfl⟩ := List.cons.inj heq
      rcases hdrive with hdrive | hdrive
      · exact absurd (hdrive.symm.trans halpha) nofun
      · exact hdrive rfl
  induction mark with
  | nil =>
    rw [List.nil_append, pathFree, hnone _ _ (by decide) (by decide) (.inl (by decide)), h]
    rfl
  | cons c rest ih =>
    obtain ⟨hc, hrest⟩ := List.forall_mem_cons.mp hmark
    rw [List.cons_append, pathFree, ih hrest, hnone _ _ hc.1 hc.2.2 (.inr ?_)]
    · rfl
    · cases rest with
      | nil => exact (by decide : some ']' ≠ some ':')
      | cons d rest' => simpa using (hrest d List.mem_cons_self).2.1

/-- A redacted text holds no path. -/
theorem pathFree_redact (n : Nat) (cs : List Char) : pathFree (redactChars n cs) = true := by
  induction cs generalizing n with
  | nil => rfl
  | cons c rest ih =>
    cases n with
    | succ n => exact ih n
    | zero =>
      by_cases hpath : pathLength (c :: rest) = 0
      · rw [redactChars_cons hpath, pathFree, pathLength_redact hpath, ih 0]
        rfl
      · obtain ⟨n, heq⟩ := redactChars_path hpath
        rw [heq]
        have hmark : ∀ c ∈ "[PATH_REDACTED".toList, c ≠ '/' ∧ c ≠ ':' ∧ c ≠ 'f' := by decide
        exact pathFree_behind hmark (ih n)

end

-- ---------------------------------------------------------------------------
-- Values
-- ---------------------------------------------------------------------------

mutual
/-- The texts in a value, the keys of its objects included. -/
def texts : Json → List String
  | .str s => [s]
  | .arr items => itemsTexts items
  | .obj fields => fieldsTexts fields
  | _ => []

def itemsTexts : List Json → List String
  | [] => []
  | j :: rest => texts j ++ itemsTexts rest

def fieldsTexts : List (String × Json) → List String
  | [] => []
  | (key, j) :: rest => key :: texts j ++ fieldsTexts rest
end

section
variable [UnicodeText]

/-- None of the texts in the value holds a path. -/
def PathFree (j : Json) : Prop := ∀ s ∈ texts j, pathFree s.toList = true

mutual
/-- Under a secret key there is only the mark of what was taken out. -/
def secretsHidden : Json → Bool
  | .arr items => itemsHidden items
  | .obj fields => fieldsHidden fields
  | _ => true

def itemsHidden : List Json → Bool
  | [] => true
  | j :: rest => secretsHidden j && itemsHidden rest

def fieldsHidden : List (String × Json) → Bool
  | [] => true
  | (key, j) :: rest =>
    (!isSecretKey key || j = .str "[REDACTED]") && secretsHidden j && fieldsHidden rest
end

mutual
/-- The keys that redaction leaves in a value. -/
def keptKeys : Json → List String
  | .arr items => itemsKeys items
  | .obj fields => fieldsKeys fields
  | _ => []

def itemsKeys : List Json → List String
  | [] => []
  | j :: rest => keptKeys j ++ itemsKeys rest

def fieldsKeys : List (String × Json) → List String
  | [] => []
  | (key, j) :: rest =>
    if isPathKey key then fieldsKeys rest
    else if isSecretKey key then key :: fieldsKeys rest
    else key :: keptKeys j ++ fieldsKeys rest
end

theorem mark_pathFree : pathFree "[REDACTED]".toList = true := pathFree_of_plain (by decide)

mutual
theorem secretsHidden_redact : ∀ j : Json, secretsHidden (redact j) = true
  | .null | .bool _ | .int _ | .float _ | .str _ => rfl
  | .arr items => itemsHidden_redact items
  | .obj fields => fieldsHidden_redact fields

theorem itemsHidden_redact : ∀ items : List Json, itemsHidden (redactItems items) = true
  | [] => rfl
  | j :: rest => by
    rw [redactItems, itemsHidden, secretsHidden_redact j, itemsHidden_redact rest]
    rfl

theorem fieldsHidden_redact : ∀ fields : List (String × Json),
    fieldsHidden (redactFields fields) = true
  | [] => rfl
  | (key, j) :: rest => by
    rw [redactFields]
    split
    · exact fieldsHidden_redact rest
    · split
      · rw [fieldsHidden, fieldsHidden_redact rest]
        simp [secretsHidden]
      · next hsecret =>
        rw [fieldsHidden, secretsHidden_redact j, fieldsHidden_redact rest]
        simp [hsecret]
end

mutual
/-- Of the texts in a redacted value only keys may hold a path. -/
theorem pathFree_texts [UnicodeLaws] : ∀ j : Json, PathFree (redact j) ↔
    ∀ key ∈ keptKeys j, pathFree key.toList = true
  | .null | .bool _ | .int _ | .float _ => by simp [PathFree, redact, texts, keptKeys]
  | .str s => by
    simp [PathFree, redact, texts, keptKeys, pathFree_redact]
  | .arr items => pathFree_items items
  | .obj fields => pathFree_fields fields

theorem pathFree_items [UnicodeLaws] : ∀ items : List Json,
    (∀ s ∈ itemsTexts (redactItems items), pathFree s.toList = true) ↔
      ∀ key ∈ itemsKeys items, pathFree key.toList = true
  | [] => by simp [redactItems, itemsTexts, itemsKeys]
  | j :: rest => by
    rw [redactItems, itemsTexts, itemsKeys, List.forall_mem_append, List.forall_mem_append]
    exact and_congr (pathFree_texts j) (pathFree_items rest)

theorem pathFree_fields [UnicodeLaws] : ∀ fields : List (String × Json),
    (∀ s ∈ fieldsTexts (redactFields fields), pathFree s.toList = true) ↔
      ∀ key ∈ fieldsKeys fields, pathFree key.toList = true
  | [] => by simp [redactFields, fieldsTexts, fieldsKeys]
  | (key, j) :: rest => by
    rw [redactFields, fieldsKeys]
    split
    · exact pathFree_fields rest
    · split
      · simp only [fieldsTexts, texts, List.cons_append, List.nil_append, List.forall_mem_cons,
          mark_pathFree, true_and]
        exact and_congr_right fun _ => pathFree_fields rest
      · rw [fieldsTexts, List.cons_append, List.forall_mem_cons, List.forall_mem_append,
          List.cons_append, List.forall_mem_cons, List.forall_mem_append]
        exact and_congr_right fun _ => and_congr (pathFree_texts j) (pathFree_fields rest)
end

mutual
/-- Redacting twice is redacting once. -/
theorem redact_redact [UnicodeLaws] : ∀ j : Json, redact (redact j) = redact j
  | .null | .bool _ | .int _ | .float _ => rfl
  | .str s => by
    rw [redact, redact, String.toList_ofList, redactChars_of_pathFree (pathFree_redact 0 _)]
  | .arr items => congrArg Json.arr (redactItems_redact items)
  | .obj fields => congrArg Json.obj (redactFields_redact fields)

theorem redactItems_redact [UnicodeLaws] : ∀ items : List Json,
    redactItems (redactItems items) = redactItems items
  | [] => rfl
  | j :: rest => by
    rw [redactItems, redactItems, redact_redact j, redactItems_redact rest]

theorem redactFields_redact [UnicodeLaws] : ∀ fields : List (String × Json),
    redactFields (redactFields fields) = redactFields fields
  | [] => rfl
  | (key, j) :: rest => by
    rw [redactFields]
    split
    · exact redactFields_redact rest
    · next hpath =>
      split
      · next hsecret =>
        rw [redactFields, if_neg hpath, if_pos hsecret, redactFields_redact rest]
      · next hsecret =>
        rw [redactFields, if_neg hpath, if_neg hsecret, redact_redact j, redactFields_redact rest]
end

-- ---------------------------------------------------------------------------
-- Objects
-- ---------------------------------------------------------------------------

theorem pathFree_obj {fields : List (String × Json)} : PathFree (.obj fields) ↔
    ∀ f ∈ fields, pathFree f.1.toList = true ∧ PathFree f.2 := by
  unfold PathFree
  rw [texts]
  induction fields with
  | nil => simp [fieldsTexts]
  | cons field rest ih =>
    rw [show field = (field.1, field.2) from rfl, fieldsTexts, List.cons_append,
      List.forall_mem_cons, List.forall_mem_append, ih, List.forall_mem_cons, and_assoc]

theorem secretsHidden_obj {fields : List (String × Json)}
    (h : ∀ f ∈ fields, isSecretKey f.1 = false ∧ secretsHidden f.2 = true) :
    secretsHidden (.obj fields) = true := by
  rw [secretsHidden]
  induction fields with
  | nil => rfl
  | cons field rest ih =>
    obtain ⟨⟨hkey, hvalue⟩, hrest⟩ := List.forall_mem_cons.mp h
    rw [show field = (field.1, field.2) from rfl, fieldsHidden, hkey, hvalue, ih hrest]
    rfl

theorem fieldsKeys_pathFree {fields : List (String × Json)}
    (h : ∀ f ∈ fields, pathFree f.1.toList = true ∧
      ∀ key ∈ keptKeys f.2, pathFree key.toList = true) :
    ∀ key ∈ fieldsKeys fields, pathFree key.toList = true := by
  induction fields with
  | nil => simp [fieldsKeys]
  | cons field rest ih =>
    obtain ⟨⟨hkey, hvalue⟩, hrest⟩ := List.forall_mem_cons.mp h
    rw [show field = (field.1, field.2) from rfl, fieldsKeys]
    split
    · exact ih hrest
    · split
      · exact List.forall_mem_cons.mpr ⟨hkey, ih hrest⟩
      · exact List.forall_mem_cons.mpr ⟨hkey, List.forall_mem_append.mpr ⟨hvalue, ih hrest⟩⟩

theorem mem_fieldsKeys {fields : List (String × Json)} (hmem : (name, j) ∈ fields)
    (hpath : isPathKey name = false) (hsecret : isSecretKey name = false) (hkey : key ∈ keptKeys j) :
    key ∈ fieldsKeys fields := by
  induction fields with
  | nil => exact absurd hmem List.not_mem_nil
  | cons field rest ih =>
    rcases List.mem_cons.mp hmem with rfl | hmem
    · rw [fieldsKeys, hpath, hsecret]
      exact List.mem_cons_of_mem _ (List.mem_append_left _ hkey)
    · rw [show field = (field.1, field.2) from rfl, fieldsKeys]
      have hrest := ih hmem
      split
      · exact hrest
      · split
        · exact List.mem_cons_of_mem _ hrest
        · exact List.mem_cons_of_mem _ (List.mem_append_right _ hrest)

theorem isSha256_pathFree (h : isSha256 s = true) : pathFree s.toList = true := by
  simp only [isSha256, Bool.and_eq_true, List.all_eq_true] at h
  refine pathFree_of_plain fun c hc => ?_
  have hhex := h.2 c hc
  constructor
  · rintro rfl
    exact absurd hhex (by decide)
  · rintro rfl
    exact absurd hhex (by decide)

/-- Keys of lower-case ASCII letters are read as they are. -/
theorem lower_key [UnicodeLaws] (h : ∀ c ∈ key.toList, c.toNat < 128 ∧ c.toLower = c) :
    lower key = key := by
  refine String.toList_inj.mp ((UnicodeLaws.lower_ascii _ fun c hc => (h c hc).1).trans ?_)
  exact (List.map_congr_left fun c hc => (h c hc).2).trans (List.map_id _)

end

end Paic.Tools
