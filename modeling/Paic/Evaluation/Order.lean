import Paic.Evaluation.Artifact

/-!
# The order of a dict

Writing a prediction or a configuration brings the keys of its dicts in order.
Scores, metrics and digests are those of the model as it was.
-/

namespace Paic.Evaluation

open Checks (raiseIf need mapM_congr)
open Investigation (FloatMath)

theorem keysInOrder_perm (fields : List (String × α)) : (keysInOrder fields).Perm fields :=
  List.perm_insertionSort _ _

theorem keysInOrder_keys (fields : List (String × α)) :
    ((keysInOrder fields).map Prod.fst).Perm (fields.map Prod.fst) :=
  (keysInOrder_perm fields).map Prod.fst

theorem keysInOrder_idem (fields : List (String × α)) :
    keysInOrder (keysInOrder fields) = keysInOrder fields := by
  have hsorted : (keysInOrder fields).Pairwise fun a b => a.1 ≤ b.1 :=
    List.pairwise_insertionSort _ _
  exact hsorted.insertionSort_eq

theorem keysInOrder_lookup {α : Type} {fields : List (String × α)} (h : (fields.map Prod.fst).Nodup)
    (key : String) : (keysInOrder fields).lookup key = fields.lookup key :=
  (Entries.lookup_of_perm (keysInOrder_perm fields).symm h key).symm

/-- Labels in order are fixed by which labels there are. -/
theorem sortedLabels_perm (h : xs.Perm ys) : sortedLabels xs = sortedLabels ys := by
  have hperm : (sortedLabels xs).Perm (sortedLabels ys) :=
    ((List.perm_insertionSort _ _).trans h.dedup).trans (List.perm_insertionSort _ _).symm
  exact hperm.eq_of_pairwise (fun _ _ _ _ => String.le_antisymm) (List.pairwise_insertionSort _ _)
    (List.pairwise_insertionSort _ _)

-- ---------------------------------------------------------------------------
-- Scoring
-- ---------------------------------------------------------------------------

section
variable [ScoringMath] {p : Prediction}

theorem probabilityOf_inOrder (h : (p.probabilities.map Prod.fst).Nodup) :
    p.inOrder.probabilityOf = p.probabilityOf := by
  funext label
  exact congrArg (·.getD 0) (keysInOrder_lookup h label)

theorem probability_inOrder (h : (p.probabilities.map Prod.fst).Nodup) :
    p.inOrder.probability = p.probability := by
  funext item
  exact congrArg (need · (Error.keyError item)) (keysInOrder_lookup h item)

theorem brierScore_inOrder (h : (p.probabilities.map Prod.fst).Nodup) :
    brierScore answer p.inOrder = brierScore answer p := by
  have hlabels : sortedLabels (p.inOrder.probabilities.map Prod.fst ++ [answer.rootCauseId]) =
      sortedLabels (p.probabilities.map Prod.fst ++ [answer.rootCauseId]) :=
    sortedLabels_perm ((keysInOrder_keys p.probabilities).append_right _)
  rw [brierScore, hlabels, probabilityOf_inOrder h]
  rfl

theorem scoreCase_inOrder (h : (p.probabilities.map Prod.fst).Nodup) :
    scoreCase case answer p.inOrder maxToolCalls = scoreCase case answer p maxToolCalls := by
  have hlog : clippedLogLoss answer p.inOrder = clippedLogLoss answer p := by
    rw [clippedLogLoss, probabilityOf_inOrder h]
    rfl
  unfold scoreCase
  rw [brierScore_inOrder h, hlog, probability_inOrder h]
  rfl

theorem calibrationSample_inOrder (h : (p.probabilities.map Prod.fst).Nodup) :
    calibrationSample bins includeAbstentions (answer, p.inOrder) =
      calibrationSample bins includeAbstentions (answer, p) := by
  unfold calibrationSample
  simp only
  rw [probability_inOrder h]
  rfl

/-- Predictions with each key once. -/
def Keyed (predictions : List Prediction) : Prop :=
  ∀ p ∈ predictions, (p.probabilities.map Prod.fst).Nodup

theorem scoreCases_inOrder (h : Keyed predictions) :
    scoreCases cases answers (predictions.map Prediction.inOrder) maxToolCalls =
      scoreCases cases answers predictions maxToolCalls := by
  rw [scoreCases, List.zip_map_right, List.zip_map_right, List.mapM_map]
  refine mapM_congr fun (case, answer, p) hmem => ?_
  have hp : p ∈ predictions := (List.of_mem_zip (List.of_mem_zip hmem).2).2
  exact scoreCase_inOrder (h p hp)

theorem calibrationReport_inOrder (h : Keyed predictions) :
    calibrationReport answers (predictions.map Prediction.inOrder) bins includeAbstentions =
      calibrationReport answers predictions bins includeAbstentions := by
  have hsamples : (answers.zip (predictions.map Prediction.inOrder)).mapM
        (calibrationSample bins includeAbstentions) =
      (answers.zip predictions).mapM (calibrationSample bins includeAbstentions) := by
    rw [List.zip_map_right, List.mapM_map]
    refine mapM_congr fun (answer, p) hmem => ?_
    exact calibrationSample_inOrder (h p (List.of_mem_zip hmem).2)
  rw [calibrationReport, hsamples, List.length_map]
  rfl

theorem aggregateResults_inOrder (h : Keyed predictions) :
    aggregateResults results answers (predictions.map Prediction.inOrder) =
      aggregateResults results answers predictions := by
  have hids : (predictions.map Prediction.inOrder).map Prediction.caseId =
      predictions.map Prediction.caseId := by
    rw [List.map_map]
    rfl
  unfold aggregateResults
  rw [calibrationReport_inOrder h, hids, List.length_map]

end

-- ---------------------------------------------------------------------------
-- Digests
-- ---------------------------------------------------------------------------

section
variable [Hashing] [CanonicalJson]

/-- Values that are written the same have one digest. -/
theorem digestValue_same {a b : Json} (h : a.Same b) : digestValue a = digestValue b := by
  rw [digestValue, digestValue, ← CanonicalJson.sorted_bytes a, h, CanonicalJson.sorted_bytes]

omit [Hashing] [CanonicalJson] in
theorem obj_same {fields fields' : List (String × Json)} (h : fields.Perm fields')
    (hkeys : (fields.map Prod.fst).Nodup) : (Json.obj fields).Same (.obj fields') :=
  congrArg Json.obj (Json.sortedFields_of_perm h hkeys)

omit [Hashing] [CanonicalJson] in
theorem modelDump_inOrder {p : Prediction} (h : (p.probabilities.map Prod.fst).Nodup) :
    p.inOrder.modelDump.Same p.modelDump := by
  have hprobabilities : (Json.obj (p.inOrder.probabilities.map fun entry =>
      (entry.1, Json.float entry.2))).Same
      (.obj (p.probabilities.map fun entry => (entry.1, .float entry.2))) := by
    refine obj_same ((keysInOrder_perm p.probabilities).map _) ?_
    rw [List.map_map]
    exact (keysInOrder_keys p.probabilities).nodup_iff.mpr h
  simp only [Prediction.modelDump, Json.Same, Json.sorted, Json.sortedFields] at hprobabilities ⊢
  rw [hprobabilities]
  rfl

theorem digestModels_inOrder {predictions : List Prediction} (h : Keyed predictions) :
    digestModels ((predictions.map Prediction.inOrder).map Prediction.modelDump) =
      digestModels (predictions.map Prediction.modelDump) := by
  refine digestValue_same (congrArg Json.arr ?_)
  induction predictions with
  | nil => rfl
  | cons p rest ih =>
    have hp := modelDump_inOrder (h p (List.mem_cons_self ..))
    have hrest := ih fun q hq => h q (List.mem_cons_of_mem _ hq)
    simp only [List.map_cons, Json.sortedItems, hrest]
    rw [hp]

theorem providerConfigDigest_inOrder {config : EvaluationConfig}
    (h : (config.providerConfiguration.map Prod.fst).Nodup) :
    providerConfigDigest config.inOrder = providerConfigDigest config := by
  have hsettings : (Json.obj config.inOrder.providerConfiguration).Same
      (.obj config.providerConfiguration) :=
    obj_same (keysInOrder_perm _) ((keysInOrder_keys _).nodup_iff.mpr h)
  refine digestValue_same ?_
  simp only [Json.Same, Json.sorted, Json.sortedFields] at hsettings ⊢
  rw [hsettings]
  rfl

end

end Paic.Evaluation
