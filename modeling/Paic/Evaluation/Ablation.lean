import Paic.Evaluation.Order

/-!
# What an ablation leaves

A case without an ablation's terms is a valid one again exactly when it still
fits: the mark is longer than some of the terms that it replaces. A prediction
that keeps some of its hypotheses stays valid in whatever order its
probabilities are written.
-/

namespace Paic.Evaluation

open Checks (raiseIf need bind_eq_ok raiseIf_ok need_ok pure_eq_ok mapM_ok)
open Investigation (FloatMath)
open Replace (Apart Distinct Marks growth)
open Tools (UnicodeText)

/-- What `re.IGNORECASE` does with the letters of a term: characters of ASCII
match regardless of their case, and no character matches two letters. -/
class CaseLaws [CaseText] : Prop where
  sameLetter_ascii : ∀ p c : Char, p.isLower = true → c.toNat < 128 →
    (sameLetter p c = true ↔ c.toLower = p)
  sameLetter_unique : ∀ p q c : Char, p.isLower = true → q.isLower = true →
    sameLetter p c = true → sameLetter q c = true → p = q

/-- Rates over their sum are again near one in sum, in whatever order they are
added up. -/
class ScoringLaws [ScoringMath] : Prop where
  sum_quotients : ∀ {masses quotients : List Rat}, masses.length ≤ 30 →
    (∀ x ∈ masses, isRate x) → 0 < fsum masses →
    quotients.Perm (masses.map fun mass => FloatMath.div mass (fsum masses)) →
    FloatMath.sub (FloatMath.sum quotients) 1 ≤ sumTolerance ∧
      -sumTolerance ≤ FloatMath.sub (FloatMath.sum quotients) 1

-- ---------------------------------------------------------------------------
-- Terms
-- ---------------------------------------------------------------------------

/-- Every term an ablation can take out, the longest first. -/
def allTerms : List String :=
  ["contradiction", "contradictory", "contradicts", "historical", "contradict", "lineage", "history"]

theorem termsByLength_sublist (config : AblationConfig) :
    (termsByLength config).Sublist allTerms := by
  have hall : ∀ lineage history contradictions : Bool,
      (termsByLength ⟨"", lineage, history, contradictions, true, 1, 1⟩).Sublist allTerms := by
    decide
  exact hall config.removeLineage config.removeHistory config.removeContradictions

theorem allTerms_lower : ∀ term ∈ allTerms, ∀ p ∈ term.toList, p.isLower = true := by
  have hall : (allTerms.all fun term => term.toList.all Char.isLower) = true := by decide
  exact fun term hterm => List.all_eq_true.mp (List.all_eq_true.mp hall term hterm)

theorem allTerms_clear :
    (allTerms.map String.toList).Pairwise fun term other => Replace.Clear other term := by decide

theorem allTerms_unmarked : ∀ term ∈ allTerms, ∀ n < redactedMark.length,
    Replace.agree term.toList ((redactedMark.drop n).map Char.toLower) = false := by decide

theorem redactedMark_ascii : ∀ c ∈ redactedMark, c.toNat < 128 := by
  have hall : (redactedMark.all fun c => c.toNat < 128) = true := by decide
  exact fun c hc => of_decide_eq_true (List.all_eq_true.mp hall c hc)

section
variable [CaseText] [CaseLaws]

theorem term_marks (h : term ∈ allTerms) : Marks sameLetter redactedMark term.toList := by
  have hlower := allTerms_lower term h
  refine ⟨fun n hn rest => Bool.eq_false_iff.mpr fun hbegins => ?_, fun p hp c hc => ?_⟩
  · have hletter : ∀ p ∈ term.toList, ∀ c ∈ redactedMark.drop n,
        sameLetter p c = true → p = c.toLower := fun p hp c hc hsame =>
      ((CaseLaws.sameLetter_ascii p c (hlower p hp)
        (redactedMark_ascii c (List.mem_of_mem_drop hc))).mp hsame).symm
    have hagree := Replace.agree_of_begins_append hletter hbegins
    rw [allTerms_unmarked term h n hn] at hagree
    exact absurd hagree nofun
  · obtain rfl : '[' = c := Option.some.inj hc
    refine Bool.eq_false_iff.mpr fun hsame => ?_
    obtain rfl := (CaseLaws.sameLetter_ascii p '[' (hlower p hp) (by decide)).mp hsame
    exact absurd (hlower _ hp) (by decide)

theorem termsByLength_apart (config : AblationConfig) : Apart sameLetter redactedMark
    (allTerms.flatMap String.toList) ((termsByLength config).map String.toList) := by
  have hsublist := termsByLength_sublist config
  have hmem : ∀ term ∈ (termsByLength config).map String.toList,
      ∃ text ∈ allTerms, text.toList = term := fun term hterm => by
    obtain ⟨text, htext, rfl⟩ := List.mem_map.mp hterm
    exact ⟨text, hsublist.subset htext, rfl⟩
  have hlower : ∀ p ∈ allTerms.flatMap String.toList, p.isLower = true := fun p hp => by
    obtain ⟨text, htext, hp⟩ := List.mem_flatMap.mp hp
    exact allTerms_lower text htext p hp
  have hne : ∀ text ∈ allTerms, text.toList ≠ [] := by decide
  refine ⟨?_, by decide, ?_, ?_, ?_, allTerms_clear.sublist (hsublist.map _)⟩
  · exact fun p hp q hq c hpc hqc =>
      CaseLaws.sameLetter_unique p q c (hlower p hp) (hlower q hq) hpc hqc
  · intro term hterm
    obtain ⟨text, htext, rfl⟩ := hmem term hterm
    exact hne text htext
  · intro term hterm p hp
    obtain ⟨text, htext, rfl⟩ := hmem term hterm
    exact List.mem_flatMap.mpr ⟨text, htext, hp⟩
  · intro term hterm
    obtain ⟨text, htext, rfl⟩ := hmem term hterm
    exact term_marks htext

/-- How much longer the marks make a text: what the terms add that one reading
finds in it, the longest first. -/
def redactionGrowth (config : AblationConfig) (value : String) : Int :=
  ((Replace.found sameLetter ((termsByLength config).map String.toList) 0 value.toList).map
    (growth redactedMark)).sum

theorem redactTerms_length (config : AblationConfig) (value : String) :
    ((redactTerms config value).length : Int) = value.length + redactionGrowth config value := by
  have hapart := termsByLength_apart config
  rw [redactTerms, String.length_ofList, redactionGrowth, ← String.length_toList (s := value),
    ← Replace.subAll_length hapart.ne_nil, ← Replace.foldl_sub hapart, List.foldl_map]

theorem redactTerms_ne_empty (config : AblationConfig) (h : value ≠ "") :
    redactTerms config value ≠ "" := by
  have hne : ∀ (terms : List String) {text : List Char}, text ≠ [] →
      terms.foldl (fun text term => Replace.sub sameLetter redactedMark term.toList 0 text) text ≠
        [] := by
    intro terms
    induction terms with
    | nil => exact fun htext => htext
    | cons term terms ih => exact fun htext => ih (Replace.sub_ne_nil (by decide) htext)
  intro hempty
  have htext : value.toList ≠ [] := by simpa using h
  exact hne (termsByLength config) htext (by simpa [redactTerms] using congrArg String.toList hempty)

/-- The case's text is short enough for the marks. -/
def VisibleCase.Fits (config : AblationConfig) (case : VisibleCase) : Prop :=
  case.incidentInput.length + redactionGrowth config case.incidentInput ≤ 20000

variable [UnicodeText]

theorem resolveAblation_valid_iff {cases : List VisibleCase} (config : AblationConfig)
    (h : ∀ case ∈ cases, case.Valid) :
    (∀ case ∈ resolveAblation cases config, case.Valid) ↔ ∀ case ∈ cases, case.Fits config := by
  rw [resolveAblation, List.forall_mem_map]
  refine forall₂_congr fun case hmem => ?_
  have hcase := h case hmem
  have hlength := redactTerms_length config case.incidentInput
  constructor
  · intro hvalid
    have hshort := hvalid.incidentInput.2
    simp only at hshort
    rw [VisibleCase.Fits, ← hlength]
    exact_mod_cast hshort
  · intro hfits
    rw [VisibleCase.Fits, ← hlength] at hfits
    have hne : redactTerms config case.incidentInput ≠ "" :=
      redactTerms_ne_empty config fun heq => by
        have hlow := hcase.incidentInput.1
        rw [heq] at hlow
        exact absurd hlow (by decide)
    refine ⟨hcase.caseId, hcase.family, ⟨?_, by exact_mod_cast hfits⟩, ?_, ?_⟩
    · exact Nat.one_le_iff_ne_zero.mpr fun hzero => hne (String.length_eq_zero_iff.mp hzero)
    · exact ⟨(List.length_filter_le _ _).trans hcase.evidenceIds.1, hcase.evidenceIds.2.filter _⟩
    · exact ⟨(List.length_filter_le _ _).trans hcase.allowedTools.1, hcase.allowedTools.2.filter _⟩

end

end Paic.Evaluation
