import Mathlib

/-!
# Lines of a text

`str.splitlines`: a line ends at any of a dozen characters, of which a
carriage return takes the line feed after it along, and the last line need
not end at all. A line that is written after a text is a line of its own
when the text ended its last one.
-/

namespace Paic.Lines

/-- The characters that end a line. -/
def isBreak (c : Char) : Bool :=
  c.val ∈ [0x0A, 0x0B, 0x0C, 0x0D, 0x1C, 0x1D, 0x1E, 0x85, 0x2028, 0x2029]

def splitlines : List Char → List (List Char)
  | [] => []
  | '\r' :: '\n' :: cs => [] :: splitlines cs
  | c :: cs =>
    if isBreak c then [] :: splitlines cs
    else match splitlines cs with
      | [] => [[c]]
      | line :: rest => (c :: line) :: rest

/-- The last line of the text is ended, or there is none. -/
def Ended (cs : List Char) : Prop := ∀ c ∈ cs.getLast?, isBreak c = true

instance (cs : List Char) : Decidable (Ended cs) :=
  decidable_of_iff (cs.getLast?.all isBreak = true) (Option.all_eq_true _ _)

/-- A property of the characters of a text is tested on them, not on all the
characters there are. -/
instance (priority := high) decidableChars {p : Char → Prop} [DecidablePred p] (cs : List Char) :
    Decidable (∀ c ∈ cs, p c) := List.decidableBAll p cs

/-- A text that is one line as it stands. -/
def OneLine (line : List Char) : Prop := line ≠ [] ∧ ∀ c ∈ line, isBreak c = false

theorem splitlines_cons (h : c ≠ '\r' ∨ ∀ rest, cs ≠ '\n' :: rest) :
    splitlines (c :: cs) = if isBreak c then [] :: splitlines cs
      else match splitlines cs with
        | [] => [[c]]
        | line :: rest => (c :: line) :: rest := by
  rw [splitlines.eq_def]
  split
  · next heq => exact absurd heq nofun
  · next heq =>
    obtain ⟨rfl, rfl⟩ := List.cons.inj heq
    exact absurd rfl (h.resolve_left (fun hne => hne rfl) _)
  · next heq =>
    obtain ⟨rfl, rfl⟩ := List.cons.inj heq
    rfl

theorem splitlines_break (h : isBreak c = true) (hn : c ≠ '\r' ∨ ∀ rest, cs ≠ '\n' :: rest) :
    splitlines (c :: cs) = [] :: splitlines cs := by
  rw [splitlines_cons hn, if_pos h]

theorem splitlines_char (h : isBreak c = false) :
    splitlines (c :: cs) = match splitlines cs with
      | [] => [[c]]
      | line :: rest => (c :: line) :: rest := by
  have hne : c ≠ '\r' := by
    rintro rfl
    exact absurd h (by decide)
  rw [splitlines_cons (.inl hne), if_neg (by simp [h])]

/-- A line with its line break, and what comes after it. -/
theorem splitlines_line (h : ∀ c ∈ line, isBreak c = false) :
    splitlines (line ++ '\n' :: cs) = line :: splitlines cs := by
  induction line with
  | nil => exact splitlines_break (by decide) (.inl (by decide))
  | cons c rest ih =>
    rw [List.cons_append, splitlines_char (h c List.mem_cons_self),
      ih fun c hc => h c (List.mem_cons_of_mem _ hc)]

/-- A line without its line break. -/
theorem splitlines_oneLine (h : OneLine line) : splitlines line = [line] := by
  obtain ⟨hne, hbreak⟩ := h
  induction line with
  | nil => exact absurd rfl hne
  | cons c rest ih =>
    rw [splitlines_char (hbreak c List.mem_cons_self)]
    cases rest with
    | nil => rfl
    | cons d rest =>
      rw [ih (List.cons_ne_nil _ _) fun e he => hbreak e (List.mem_cons_of_mem _ he)]

theorem splitlines_ne_nil (h : cs ≠ []) : splitlines cs ≠ [] := by
  cases cs with
  | nil => exact absurd rfl h
  | cons c rest =>
    by_cases hrn : c ≠ '\r' ∨ ∀ tail, rest ≠ '\n' :: tail
    · rw [splitlines_cons hrn]
      split
      · exact List.cons_ne_nil _ _
      · split <;> exact List.cons_ne_nil _ _
    · simp only [not_or, Decidable.not_not, not_forall] at hrn
      obtain ⟨rfl, tail, rfl⟩ := hrn
      exact List.cons_ne_nil _ _

theorem Ended.tail (h : Ended (c :: cs)) : Ended cs := by
  cases cs with
  | nil => exact nofun
  | cons d rest => exact fun e he => h e (by rwa [List.getLast?_cons_cons])

/-- What follows the first character is no line feed, with a line after it
either. -/
theorem no_feed_append (h : c ≠ '\r' ∨ ∀ rest, cs ≠ '\n' :: rest) (hline : OneLine line)
    (tail : List Char) : c ≠ '\r' ∨ ∀ rest, cs ++ (line ++ tail) ≠ '\n' :: rest := by
  refine h.imp id fun h rest heq => ?_
  cases cs with
  | nil =>
    obtain ⟨d, line', rfl⟩ := List.exists_cons_of_ne_nil hline.1
    have hd : isBreak d = false := hline.2 d List.mem_cons_self
    rw [(List.cons.inj heq).1] at hd
    exact absurd hd (by decide)
  | cons d cs' => exact h cs' (by rw [(List.cons.inj heq).1])

/-- A line written after an ended text is the next line. -/
theorem splitlines_append (h : Ended cs) (hline : OneLine line) :
    splitlines (cs ++ (line ++ ['\n'])) = splitlines cs ++ [line] := by
  induction cs using splitlines.induct with
  | case1 => exact splitlines_line hline.2
  | case2 cs ih => exact congrArg ([] :: ·) (ih h.tail.tail)
  | case3 c cs hn hbreak ih =>
    have hn : c ≠ '\r' ∨ ∀ rest, cs ≠ '\n' :: rest :=
      Decidable.or_iff_not_imp_left.mpr fun hc rest hcs => hn rest (Decidable.not_not.mp hc) hcs
    rw [List.cons_append, splitlines_break hbreak (no_feed_append hn hline _), ih h.tail,
      splitlines_break hbreak hn, List.cons_append]
  | case4 c cs hn hbreak hnil ih =>
    obtain rfl : cs = [] := Decidable.not_not.mp fun hne => splitlines_ne_nil hne hnil
    exact absurd (h c rfl) hbreak
  | case5 c cs hn hbreak line' rest hlines ih =>
    have hbreak : isBreak c = false := by simpa using hbreak
    rw [List.cons_append, splitlines_char hbreak, ih h.tail, splitlines_char hbreak, hlines]
    rfl

/-- A line written after a text that is not ended lengthens its last line. -/
theorem splitlines_append_unended (h : ¬ Ended cs) (hline : OneLine line) :
    ∃ init last, splitlines cs = init ++ [last] ∧ last ≠ [] ∧
      splitlines (cs ++ (line ++ ['\n'])) = init ++ [last ++ line] := by
  have htail : ∀ c (cs : List Char), cs ≠ [] → ¬ Ended (c :: cs) → ¬ Ended cs := by
    intro c cs hne h hcs
    obtain ⟨d, rest, rfl⟩ := List.exists_cons_of_ne_nil hne
    exact h fun e he => hcs e (by rwa [List.getLast?_cons_cons] at he)
  induction cs using splitlines.induct with
  | case1 => exact absurd nofun h
  | case2 cs ih =>
    have hcs : ¬ Ended cs := fun hcs => by
      cases cs with
      | nil => exact h fun c hc => by obtain rfl := Option.some.inj hc; decide
      | cons d rest => exact h fun e he => hcs e (by simpa using he)
    obtain ⟨init, last, hlines, hlast, happend⟩ := ih hcs
    exact ⟨[] :: init, last, congrArg ([] :: ·) hlines, hlast, congrArg ([] :: ·) happend⟩
  | case3 c cs hn hbreak ih =>
    have hn : c ≠ '\r' ∨ ∀ rest, cs ≠ '\n' :: rest :=
      Decidable.or_iff_not_imp_left.mpr fun hc rest hcs => hn rest (Decidable.not_not.mp hc) hcs
    have hne : cs ≠ [] := by
      rintro rfl
      exact h fun d hd => by obtain rfl := Option.some.inj hd; exact hbreak
    obtain ⟨init, last, hlines, hlast, happend⟩ := ih (htail c cs hne h)
    refine ⟨[] :: init, last, ?_, hlast, ?_⟩
    · rw [splitlines_break hbreak hn, hlines, List.cons_append]
    · rw [List.cons_append, splitlines_break hbreak (no_feed_append hn hline _), happend,
        List.cons_append]
  | case4 c cs hn hbreak hnil ih =>
    obtain rfl : cs = [] := Decidable.not_not.mp fun hne => splitlines_ne_nil hne hnil
    have hbreak : isBreak c = false := by simpa using hbreak
    refine ⟨[], [c], splitlines_char hbreak, List.cons_ne_nil _ _, ?_⟩
    have hwhole : ∀ d ∈ c :: line, isBreak d = false := fun d hd =>
      (List.mem_cons.mp hd).elim (fun heq => heq ▸ hbreak) (hline.2 d)
    exact splitlines_line hwhole
  | case5 c cs hn hbreak line' rest hlines ih =>
    have hbreak : isBreak c = false := by simpa using hbreak
    have hne : cs ≠ [] := by
      rintro rfl
      exact absurd hlines nofun
    obtain ⟨init, last, hlines', hlast, happend⟩ := ih (htail c cs hne h)
    cases init with
    | nil =>
      refine ⟨[], c :: last, ?_, List.cons_ne_nil _ _, ?_⟩
      · rw [splitlines_char hbreak, hlines']
        rfl
      · rw [List.cons_append, splitlines_char hbreak, happend]
        rfl
    | cons first init =>
      refine ⟨(c :: first) :: init, last, ?_, hlast, ?_⟩
      · rw [splitlines_char hbreak, hlines']
        rfl
      · rw [List.cons_append, splitlines_char hbreak, happend]
        rfl

-- ---------------------------------------------------------------------------
-- Strings
-- ---------------------------------------------------------------------------

/-- `text.splitlines()` -/
def textLines (text : String) : List String := (splitlines text.toList).map String.ofList

theorem textLines_append (h : Ended text.toList) (hline : OneLine line.toList) :
    textLines (text ++ (line ++ "\n")) = textLines text ++ [line] := by
  rw [textLines, String.toList_append, String.toList_append, show "\n".toList = ['\n'] from rfl,
    splitlines_append h hline]
  simp [textLines]

theorem textLines_append_unended (h : ¬ Ended text.toList) (hline : OneLine line.toList) :
    ∃ init last, textLines text = init ++ [last] ∧ last ≠ "" ∧
      textLines (text ++ (line ++ "\n")) = init ++ [last ++ line] := by
  obtain ⟨init, last, hlines, hlast, happend⟩ := splitlines_append_unended h hline
  refine ⟨init.map String.ofList, String.ofList last, ?_, ?_, ?_⟩
  · rw [textLines, hlines, List.map_append, List.map_singleton]
  · exact fun heq => hlast (by simpa using congrArg String.toList heq)
  · rw [textLines, String.toList_append, String.toList_append, show "\n".toList = ['\n'] from rfl,
      happend, List.map_append, List.map_singleton, String.ofList_append, String.ofList_toList]

theorem textLines_oneLine (hline : OneLine line.toList) : textLines line = [line] := by
  rw [textLines, splitlines_oneLine hline, List.map_singleton, String.ofList_toList]

/-- A line without its line break is not ended. -/
theorem OneLine.not_ended (h : OneLine line) : ¬ Ended line := by
  intro hended
  have hlast := List.getLast?_eq_some_getLast h.1
  have hbreak := h.2 _ (List.mem_of_getLast? hlast)
  rw [hended _ hlast] at hbreak
  exact absurd hbreak nofun

theorem ended_append (text : String) (line : String) : Ended (text ++ (line ++ "\n")).toList := by
  intro c hc
  rw [String.toList_append, String.toList_append, show "\n".toList = ['\n'] from rfl,
    ← List.append_assoc, List.getLast?_append, List.getLast?_singleton] at hc
  obtain rfl := Option.some.inj hc
  decide

end Paic.Lines
