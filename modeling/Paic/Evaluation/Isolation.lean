import Paic.Evaluation.Sample

/-!
# Hidden labels

A case is given to the agent; its answer is not. `disclosed` refuses a label
whose words stand in the text of the incident, but of the names it only refuses
one with exactly the label's words.
-/

namespace Paic.Evaluation

open Checks
open Words (IsWord)
open Tools (UnicodeText)

section
variable [CaseText]

/-- The label's words stand next to each other among those of the field. -/
def Contains (field label : String) : Prop := normalWords label <:+: normalWords field

instance (field label : String) : Decidable (Contains field label) := by
  unfold Contains; infer_instance

/-- No field of the case has the words of a label. -/
def Isolated (case : VisibleCase) (answer : HiddenAnswerKey) : Prop :=
  ∀ label ∈ answer.labels, normalWords label ≠ [] →
    ∀ field ∈ case.incidentInput :: case.identifiers, ¬ Contains field label

/-- A name of the case has the words of a label and others. -/
def Embedded (case : VisibleCase) (answer : HiddenAnswerKey) : Prop :=
  ∃ label ∈ answer.labels, normalWords label ≠ [] ∧
    ∃ field ∈ case.identifiers, Contains field label ∧ normalWords label ≠ normalWords field

theorem normalWords_isWord (value : String) : ∀ w ∈ normalWords value, IsWord w := by
  intro w hw
  obtain ⟨hne, hall⟩ := Words.mem_words hw
  refine ⟨hne, fun c hc => ?_⟩
  have hlower := hall c hc
  constructor
  · rintro rfl
    exact absurd hlower (by decide)
  · rintro rfl
    exact absurd hlower (by decide)

theorem normaliseLabel_eq : normaliseLabel value = normaliseLabel other ↔
    normalWords value = normalWords other :=
  ⟨Words.joined_injective (normalWords_isWord value) (normalWords_isWord other),
    congrArg Words.joined⟩

/-- What is refused: a name with a label's words, or the words in the text. -/
theorem disclosed_iff : disclosed case label ↔ normalWords label ≠ [] ∧
    ((∃ field ∈ case.identifiers, normalWords field = normalWords label) ∨
      Contains case.incidentInput label) := by
  have hempty : normaliseLabel label = [] ↔ normalWords label = [] := by
    refine ⟨fun h => ?_, congrArg Words.joined⟩
    exact Words.joined_injective (normalWords_isWord label) (List.forall_mem_nil _) h
  have hfields : normaliseLabel label ∈ case.identifiers.map normaliseLabel ↔
      ∃ field ∈ case.identifiers, normalWords field = normalWords label := by
    simp only [List.mem_map, normaliseLabel_eq]
  rw [disclosed, hfields, ne_eq, hempty]
  refine and_congr_right fun hne => or_congr Iff.rfl ?_
  obtain ⟨l, ls, hwords⟩ := List.exists_cons_of_ne_nil hne
  rw [Contains, hwords, normaliseLabel, normaliseLabel, hwords]
  exact Words.found_joined (hwords ▸ normalWords_isWord label) (normalWords_isWord _)

theorem validateHiddenLabelIsolation_ok :
    validateHiddenLabelIsolation visible answers = .ok () ↔
      ∀ pair ∈ visible.zip answers, ∀ label ∈ pair.2.labels, ¬ disclosed pair.1 label := by
  simp only [validateHiddenLabelIsolation, loop_unit_ok, raiseIf_ok]

/-- A case whose labels are not refused is isolated unless a name embeds one. -/
theorem isolated_iff (h : ∀ label ∈ answer.labels, ¬ disclosed case label) :
    Isolated case answer ↔ ¬ Embedded case answer := by
  constructor
  · rintro hisolated ⟨label, hlabel, hne, field, hfield, hcontains, -⟩
    exact hisolated label hlabel hne field (List.mem_cons_of_mem _ hfield) hcontains
  · intro hembedded label hlabel hne field hfield hcontains
    have hnot := h label hlabel
    rw [disclosed_iff] at hnot
    rcases List.mem_cons.mp hfield with rfl | hfield
    · exact hnot ⟨hne, .inr hcontains⟩
    · by_cases heq : normalWords label = normalWords field
      · exact hnot ⟨hne, .inl ⟨field, hfield, heq.symm⟩⟩
      · exact hembedded ⟨label, hlabel, hne, field, hfield, hcontains, heq⟩

omit [CaseText] in
/-- Cases and answers with the same ids in the same order stand in pairs. -/
theorem mem_zip_of_caseId {visible : List VisibleCase} {answers : List HiddenAnswerKey}
    (hids : answers.map HiddenAnswerKey.caseId = visible.map VisibleCase.caseId)
    (hunique : (visible.map VisibleCase.caseId).Nodup) (hcase : case ∈ visible)
    (hanswer : answer ∈ answers) (h : answer.caseId = case.caseId) :
    (case, answer) ∈ visible.zip answers := by
  induction visible generalizing answers with
  | nil => exact absurd hcase List.not_mem_nil
  | cons c visible ih =>
    cases answers with
    | nil => exact absurd hanswer List.not_mem_nil
    | cons a answers =>
      obtain ⟨hid, hrest⟩ := List.cons.inj hids
      obtain ⟨hc, hunique⟩ := List.nodup_cons.mp hunique
      rw [List.zip_cons_cons]
      rcases List.mem_cons.mp hcase with rfl | hcase
      · rcases List.mem_cons.mp hanswer with rfl | hanswer
        · exact List.mem_cons_self ..
        · have hmem : answer.caseId ∈ answers.map HiddenAnswerKey.caseId :=
            List.mem_map_of_mem hanswer
          rw [hrest, h] at hmem
          exact absurd hmem hc
      · rcases List.mem_cons.mp hanswer with rfl | hanswer
        · have hmem : case.caseId ∈ visible.map VisibleCase.caseId := List.mem_map_of_mem hcase
          rw [← h, hid] at hmem
          exact absurd hmem hc
        · exact List.mem_cons_of_mem _ (ih hrest hunique hcase hanswer)

variable [ScoringMath] [UnicodeText] [Hashing] [CanonicalJson] {T : Type} [BenchmarkText T]

/-- A benchmark that is accepted keeps its labels from the agent exactly when no
name has a label's words among others. -/
theorem benchmark_isolated_iff {visibleDir answersDir : Root T} {benchmark : Benchmark}
    (h : loadBenchmark visibleDir answersDir = .ok benchmark) :
    (∀ case ∈ benchmark.visible, ∀ answer ∈ benchmark.answers, answer.caseId = case.caseId →
      Isolated case answer) ↔
      ∀ case ∈ benchmark.visible, ∀ answer ∈ benchmark.answers, answer.caseId = case.caseId →
        ¬ Embedded case answer := by
  obtain ⟨hunique, hids, -, -⟩ := loadBenchmark_bound h
  have hrefused : validateHiddenLabelIsolation benchmark.visible benchmark.answers = .ok () := by
    simp only [loadBenchmark, bind_eq_ok, pure_eq_ok] at h
    obtain ⟨_, -, _, -, _, -, _, -, _, -, _, -, _, hrefused, rfl⟩ := h
    exact hrefused
  refine forall₂_congr fun case hcase => forall₃_congr fun answer hanswer hid => isolated_iff ?_
  exact validateHiddenLabelIsolation_ok.mp hrefused (case, answer)
    (mem_zip_of_caseId hids hunique hcase hanswer hid)

end

-- ---------------------------------------------------------------------------
-- A name with a label and a number
-- ---------------------------------------------------------------------------

namespace Sample

/-- The label of the answer is `release`. -/
def numbered : VisibleCase := { case "Checkout fails." with evidenceIds := ["release-1"] }

theorem numbered_loads : loadBenchmark (root "visible" "cases.json" (.visible [numbered]))
    answersRoot = .ok (benchmarkOf numbered) :=
  loadBenchmark_case (by decide +kernel) rfl (by decide +kernel)

theorem numbered_accepted : ∃ benchmark : Benchmark,
    loadBenchmark (root "visible" "cases.json" (.visible [numbered])) answersRoot =
      .ok benchmark ∧
    ∃ case ∈ benchmark.visible, ∃ answer ∈ benchmark.answers, answer.caseId = case.caseId ∧
      ¬ Isolated case answer := by
  refine ⟨_, numbered_loads, numbered, List.mem_singleton_self _, answer,
    List.mem_singleton_self _, rfl, fun hisolated => ?_⟩
  have hcontains : Contains "release-1" "release" := by decide +kernel
  exact hisolated "release" (List.mem_cons_self ..) (by decide +kernel) "release-1"
    (by decide) hcontains

/-- The case of the round trip is isolated. -/
theorem case_isolated : Isolated (case (incident 0)) answer := by
  have hiff := benchmark_isolated_iff (loadBenchmark_sources (Nat.zero_le 19993))
  have hnames : ∀ label ∈ ["release"], ∀ field ∈ ["case", "checkout", "record"],
      ¬ Contains field label := by decide +kernel
  refine hiff.mpr ?_ _ (List.mem_singleton_self _) _ (List.mem_singleton_self _) rfl
  rintro c hc a ha - ⟨label, hlabel, -, field, hfield, hcontains, -⟩
  obtain rfl := List.mem_singleton.mp hc
  obtain rfl := List.mem_singleton.mp ha
  exact hnames label hlabel field hfield hcontains

end Sample

end Paic.Evaluation
