import Paic.Evaluation.Sample
import Paic.Lib.Mean
import Paic.Lib.Partition
import Mathlib

/-!
# The calibration report

Without rounding, the bins part the confidences at the multiples of their
width, and the calibration error is the mean gap of the bins, weighted by their
counts.
-/

namespace Paic.Evaluation

open Checks (bind_eq_ok)
open Investigation (FloatMath)
open Mean (mean)

section
variable [ScoringMath]

/-- Arithmetic without rounding. -/
structure Exact : Prop where
  add : ∀ a b : Rat, FloatMath.add a b = a + b
  sub : ∀ a b : Rat, FloatMath.sub a b = a - b
  mul : ∀ a b : Rat, FloatMath.mul a b = a * b
  div : ∀ a b : Rat, FloatMath.div a b = a / b
  square : ∀ a : Rat, square a = a * a
  sum : ∀ values : List Rat, FloatMath.sum values = values.sum
  fsum : ∀ values : List Rat, fsum values = values.sum
  log : ∀ a : Rat, 0 < a → a ≤ 1 → FloatMath.log a ≤ 0

-- ---------------------------------------------------------------------------
-- What the report is about
-- ---------------------------------------------------------------------------

/-- The hypothesis that a prediction ranks first. -/
def Prediction.first (p : Prediction) : String := p.rankedHypotheses.headD ""

/-- The confidence of a prediction, and whether its first hypothesis is acceptable. -/
def outcome (pair : HiddenAnswerKey × Prediction) : Rat × Bool :=
  (pair.2.probabilityOf pair.2.first, decide (pair.2.first ∈ pair.1.acceptable))

/-- The outcomes that are counted. -/
def counted (includeAbstentions : Bool) (pairs : List (HiddenAnswerKey × Prediction)) :
    List (Rat × Bool) :=
  (pairs.filter fun pair => includeAbstentions || !pair.2.abstained).map outcome

/-- The confidences of a bin. The last bin also takes 1. -/
def InBin (bins index : Nat) (confidence : Rat) : Prop :=
  (index : Rat) / bins ≤ confidence ∧
    (confidence < (index + 1 : Nat) / bins ∨ (index + 1 = bins ∧ confidence = 1))

instance : Decidable (InBin bins index confidence) := by unfold InBin; infer_instance

/-- The outcomes in a bin. -/
def bucket (bins index : Nat) (outcomes : List (Rat × Bool)) : List (Rat × Bool) :=
  outcomes.filter fun o => InBin bins index o.1

/-- A bin of the report. -/
def exactBin (bins : Nat) (outcomes : List (Rat × Bool)) (index : Nat) : ReliabilityBin :=
  let inside := bucket bins index outcomes
  { lowerBound := (index : Rat) / bins
    upperBound := (index + 1 : Nat) / bins
    count := inside.length
    meanConfidence := if inside = [] then none else some (mean (inside.map Prod.fst))
    accuracy := if inside = [] then none
      else some (mean (inside.map fun o => indicator o.2)) }

/-- `abs(mean_confidence - accuracy)` -/
def ReliabilityBin.gap (b : ReliabilityBin) : Rat :=
  match b.meanConfidence, b.accuracy with
  | some meanConfidence, some accuracy => |meanConfidence - accuracy|
  | _, _ => 0

-- ---------------------------------------------------------------------------
-- Bins
-- ---------------------------------------------------------------------------

variable {bins index : Nat} {confidence : Rat}

theorem binIndex_eq_iff (hexact : Exact) (hbins : 0 < bins) (hrate : isRate confidence) :
    binIndex bins confidence = index ↔ index < bins ∧ InBin bins index confidence := by
  have hwidth : (0 : Rat) < bins := Nat.cast_pos.mpr hbins
  have hfloor : (confidence * bins).floor.toNat = ⌊confidence * bins⌋₊ := rfl
  rw [binIndex, hexact.mul, hfloor]
  rcases hrate.2.lt_or_eq with hlt | rfl
  · have hbelow : ⌊confidence * bins⌋₊ < bins := by
      rw [Nat.floor_lt (mul_nonneg hrate.1 hwidth.le)]
      exact mul_lt_of_lt_one_left hwidth hlt
    have hplace : ⌊confidence * bins⌋₊ = index ↔
        (index : Rat) / bins ≤ confidence ∧ confidence < (index + 1 : Nat) / bins := by
      rw [Nat.floor_eq_iff (mul_nonneg hrate.1 hwidth.le), div_le_iff₀ hwidth, lt_div_iff₀ hwidth,
        Nat.cast_succ]
    rw [min_eq_right (by omega), InBin, or_iff_left (fun h => absurd h.2 hlt.ne), ← hplace]
    constructor
    · rintro rfl
      exact ⟨hbelow, rfl⟩
    · exact fun h => h.2
  · rw [one_mul, Nat.floor_natCast, min_eq_left (Nat.sub_le bins 1), InBin, div_le_one hwidth,
      one_lt_div hwidth, Nat.cast_le, Nat.cast_lt]
    constructor
    · rintro rfl
      exact ⟨by omega, by omega, .inr ⟨by omega, rfl⟩⟩
    · rintro ⟨hlt, -, h | ⟨h, -⟩⟩ <;> omega

theorem binIndex_lt (hbins : 0 < bins) : binIndex bins confidence < bins :=
  (Nat.min_le_left _ _).trans_lt (Nat.sub_lt hbins Nat.one_pos)

/-- Every rate is in one bin. -/
theorem existsUnique_bin (hexact : Exact) (hbins : 0 < bins) (hrate : isRate confidence) :
    ∃! index, index < bins ∧ InBin bins index confidence := by
  refine ⟨binIndex bins confidence, (binIndex_eq_iff hexact hbins hrate).mp rfl, fun i hi => ?_⟩
  exact ((binIndex_eq_iff hexact hbins hrate).mpr hi).symm

theorem indicator_isRate (b : Bool) : isRate (indicator b) := by
  cases b <;> decide +kernel

theorem mean_isRate {values : List Rat} (h : ∀ x ∈ values, isRate x) : isRate (mean values) :=
  ⟨Mean.mean_nonneg fun x hx => (h x hx).1, Mean.mean_le zero_le_one fun x hx => (h x hx).2⟩

theorem exactBin_valid {outcomes : List (Rat × Bool)} (hindex : index < bins)
    (h : ∀ o ∈ outcomes, isRate o.1) : (exactBin bins outcomes index).Valid where
  lowerBound := ⟨by simp only [exactBin]; positivity, by
    have hle : (index : Rat) ≤ bins := Nat.cast_le.mpr hindex.le
    exact div_le_one_of_le₀ hle (Nat.cast_nonneg _)⟩
  upperBound := ⟨by simp only [exactBin]; positivity, by
    have hle : ((index + 1 : Nat) : Rat) ≤ bins := Nat.cast_le.mpr hindex
    exact div_le_one_of_le₀ hle (Nat.cast_nonneg _)⟩
  meanConfidence x hx := by
    simp only [exactBin, Option.mem_def, Option.ite_none_left_eq_some, Option.some.injEq] at hx
    obtain ⟨-, rfl⟩ := hx
    refine mean_isRate fun x hx => ?_
    obtain ⟨o, ho, rfl⟩ := List.mem_map.mp hx
    exact h o (List.mem_of_mem_filter ho)
  accuracy x hx := by
    simp only [exactBin, Option.mem_def, Option.ite_none_left_eq_some, Option.some.injEq] at hx
    obtain ⟨-, rfl⟩ := hx
    refine mean_isRate fun x hx => ?_
    obtain ⟨o, -, rfl⟩ := List.mem_map.mp hx
    exact indicator_isRate o.2

theorem exactBin_gap {outcomes : List (Rat × Bool)} (hindex : index < bins)
    (h : ∀ o ∈ outcomes, isRate o.1) : isRate (exactBin bins outcomes index).gap := by
  have hvalid := exactBin_valid hindex h
  unfold ReliabilityBin.gap
  split
  · next hmean haccuracy =>
    have hm := hvalid.meanConfidence _ hmean
    have ha := hvalid.accuracy _ haccuracy
    exact ⟨abs_nonneg _, abs_sub_le_iff.mpr ⟨by linarith [hm.2, ha.1], by linarith [hm.1, ha.2]⟩⟩
  · exact ⟨le_rfl, zero_le_one⟩

-- ---------------------------------------------------------------------------
-- Predictions
-- ---------------------------------------------------------------------------

section
variable {p : Prediction}

theorem Prediction.Valid.first_mem (h : p.Valid) : p.first ∈ p.rankedHypotheses := by
  obtain ⟨first, rest, hranked⟩ := List.exists_cons_of_length_pos h.rankedHypotheses.1.1
  rw [Prediction.first, hranked]
  exact List.mem_cons_self

theorem Prediction.Valid.top (h : p.Valid) : p.top = .ok p.first := by
  obtain ⟨first, rest, hranked⟩ := List.exists_cons_of_length_pos h.rankedHypotheses.1.1
  rw [Prediction.top, Prediction.first, hranked]
  rfl

theorem Prediction.Valid.probability (h : p.Valid) :
    p.probability p.first = .ok (p.probabilityOf p.first) := by
  obtain ⟨⟨_, value⟩, hmem, rfl⟩ := List.mem_map.mp ((h.sameKeys p.first).mpr h.first_mem)
  rw [Prediction.probability, Prediction.probabilityOf, Entries.lookup_of_mem h.probabilities.2 hmem]
  rfl

theorem Prediction.Valid.isRate (h : p.Valid) (label : String) : isRate (p.probabilityOf label) := by
  rw [Prediction.probabilityOf]
  cases hlookup : p.probabilities.lookup label with
  | none => exact ⟨le_rfl, zero_le_one⟩
  | some value =>
    exact h.sumsToOne.1 value (List.mem_map_of_mem (Entries.mem_of_lookup hlookup))

end

-- ---------------------------------------------------------------------------
-- The report
-- ---------------------------------------------------------------------------

/-- The predictions are valid and belong to the answers. -/
def Aligned (pairs : List (HiddenAnswerKey × Prediction)) : Prop :=
  ∀ pair ∈ pairs, pair.2.caseId = pair.1.caseId ∧ pair.2.Valid

def exactReport (bins : Nat) (outcomes : List (Rat × Bool)) : Rat × Nat × List ReliabilityBin :=
  let reliability := (List.range bins).map (exactBin bins outcomes)
  ((reliability.map fun b => (b.count : Rat) * b.gap).sum / outcomes.length, outcomes.length,
    reliability)

variable {pairs : List (HiddenAnswerKey × Prediction)} {includeAbstentions : Bool}

theorem counted_isRate (haligned : Aligned pairs) :
    ∀ o ∈ counted includeAbstentions pairs, isRate o.1 := by
  intro o ho
  obtain ⟨pair, hpair, rfl⟩ := List.mem_map.mp ho
  exact (haligned pair (List.mem_of_mem_filter hpair)).2.isRate _

/-- An outcome with its place among the bins. -/
def placed (bins : Nat) (o : Rat × Bool) : Sample := ⟨binIndex bins o.1, o.1, o.2⟩

theorem calibrationSample_eq (haligned : Aligned pairs) (hpair : pair ∈ pairs) :
    calibrationSample bins includeAbstentions pair =
      .ok (if includeAbstentions || !pair.2.abstained then some (placed bins (outcome pair))
        else none) := by
  obtain ⟨hid, hvalid⟩ := haligned pair hpair
  rw [calibrationSample, Checks.raiseIf_neg (not_not.mpr hid), hvalid.top]
  change (if _ then _ else (do let confidence ← pair.2.probability pair.2.first; _)) = _
  rw [hvalid.probability]
  cases pair.2.abstained <;> cases includeAbstentions <;> rfl

theorem samples_eq (haligned : Aligned pairs) :
    ∃ samples, pairs.mapM (calibrationSample bins includeAbstentions) = .ok samples ∧
      samples.filterMap (fun s => s) = (counted includeAbstentions pairs).map (placed bins) := by
  refine ⟨_, Checks.mapM_eq_map fun pair hpair => calibrationSample_eq haligned hpair, ?_⟩
  rw [List.filterMap_map, counted, List.map_map]
  induction pairs with
  | nil => rfl
  | cons pair pairs ih =>
    have ih := ih fun pair hpair => haligned pair (List.mem_cons_of_mem _ hpair)
    rw [List.filterMap_cons, List.filter_cons, ih, Function.comp_apply]
    cases h : includeAbstentions || !pair.2.abstained
    · rfl
    · rfl

theorem filter_placed (hexact : Exact) {outcomes : List (Rat × Bool)} (hindex : index < bins)
    (h : ∀ o ∈ outcomes, isRate o.1) :
    (outcomes.map (placed bins)).filter (·.index = index) =
      (bucket bins index outcomes).map (placed bins) := by
  rw [List.filter_map, bucket]
  refine congrArg (List.map (placed bins)) (List.filter_congr fun o ho => ?_)
  have hiff : binIndex bins o.1 = index ↔ index < bins ∧ InBin bins index o.1 :=
    binIndex_eq_iff hexact (Nat.zero_lt_of_lt hindex) (h o ho)
  exact decide_eq_decide.mpr (hiff.trans (and_iff_right hindex))

theorem reliabilityBin_eq (hexact : Exact) {outcomes : List (Rat × Bool)} (hindex : index < bins)
    (h : ∀ o ∈ outcomes, isRate o.1) :
    reliabilityBin bins index ((outcomes.map (placed bins)).filter (·.index = index)) =
      .ok (exactBin bins outcomes index) := by
  have hempty : (bucket bins index outcomes).isEmpty = true ↔ bucket bins index outcomes = [] :=
    List.isEmpty_iff
  rw [filter_placed hexact hindex h]
  simp only [reliabilityBin, List.length_map, List.map_map, List.isEmpty_map, hexact.div,
    hexact.fsum, hempty]
  have hbin := exactBin_valid hindex h
  rw [exactBin, mean, mean, List.length_map, List.length_map] at hbin ⊢
  exact congrArg (· >>= fun _ => _) (Checks.raiseIf_neg (not_not.mpr hbin))

theorem addError_eq (hexact : Exact) (included : Nat) (ece : Rat) (b : ReliabilityBin) :
    addError included ece b = ece + b.count * b.gap / included := by
  obtain ⟨lower, upper, count, confidence | _, accuracy | _⟩ := b
  case some.some =>
    simp only [addError, ReliabilityBin.gap]
    split
    · next h => rw [h, Nat.cast_zero, div_zero, add_zero]
    · rw [hexact.add, hexact.mul, hexact.div, hexact.sub, ← abs_eq_max_neg, div_mul_eq_mul_div]
  all_goals simp only [addError, ReliabilityBin.gap, mul_zero, zero_div, add_zero]

theorem addErrors_eq (hexact : Exact) (included : Nat) (ece : Rat) (bins : List ReliabilityBin) :
    bins.foldl (addError included) ece =
      ece + (bins.map fun b => (b.count : Rat) * b.gap).sum / included := by
  induction bins generalizing ece with
  | nil => simp
  | cons b bins ih =>
    rw [List.foldl_cons, ih, addError_eq hexact, List.map_cons, List.sum_cons, add_div, add_assoc]

theorem calibrationReport_eq (hexact : Exact) (hbins : 1 ≤ bins ∧ bins ≤ 100)
    (haligned : Aligned pairs) :
    calibrationReport (pairs.map Prod.fst) (pairs.map Prod.snd) bins includeAbstentions =
      .ok (exactReport bins (counted includeAbstentions pairs)) := by
  have hrates : ∀ o ∈ counted includeAbstentions pairs, isRate o.1 := counted_isRate haligned
  obtain ⟨samples, hsamples, hincluded⟩ := samples_eq haligned
  have hzip : (pairs.map Prod.fst).zip (pairs.map Prod.snd) = pairs := by
    rw [← List.unzip_fst, ← List.unzip_snd, List.zip_unzip]
  have hbinned : ∀ index ∈ List.range bins,
      reliabilityBin bins index
        ((samples.filterMap fun s => s).filter (·.index = index)) =
      .ok (exactBin bins (counted includeAbstentions pairs) index) := by
    intro index hindex
    rw [hincluded]
    exact reliabilityBin_eq hexact (List.mem_range.mp hindex) hrates
  have hlength : (pairs.map Prod.fst).length = (pairs.map Prod.snd).length := by
    rw [List.length_map, List.length_map]
  refine bind_eq_ok.mpr ⟨(), Checks.raiseIf_neg (by omega), bind_eq_ok.mpr
    ⟨(), Checks.raiseIf_neg (not_not.mpr hlength), bind_eq_ok.mpr
      ⟨samples, by rwa [hzip], bind_eq_ok.mpr ⟨_, Checks.mapM_eq_map hbinned, ?_⟩⟩⟩⟩
  rw [addErrors_eq hexact, zero_add, hincluded, List.length_map]
  rfl

-- ---------------------------------------------------------------------------
-- Laws of the report
-- ---------------------------------------------------------------------------

/-- Every outcome is in the bin of its confidence. -/
theorem sum_counts (hexact : Exact) (hbins : 0 < bins) {outcomes : List (Rat × Bool)}
    (h : ∀ o ∈ outcomes, isRate o.1) :
    (((List.range bins).map (exactBin bins outcomes)).map ReliabilityBin.count).sum =
      outcomes.length := by
  have hpart : ∀ index ∈ List.range bins, (exactBin bins outcomes index).count =
      (Partition.part (fun o => binIndex bins o.1) outcomes index).length := by
    intro index hindex
    refine congrArg List.length (List.filter_congr fun o ho => ?_)
    have hiff : binIndex bins o.1 = index ↔ index < bins ∧ InBin bins index o.1 :=
      binIndex_eq_iff hexact hbins (h o ho)
    exact (decide_eq_decide.mpr (hiff.trans (and_iff_right (List.mem_range.mp hindex)))).symm
  rw [List.map_map]
  exact (congrArg List.sum (List.map_congr_left hpart)).trans
    (Partition.sum_length_part List.nodup_range fun o _ => List.mem_range.mpr (binIndex_lt hbins))

theorem exactReport_isRate (hexact : Exact) (hbins : 0 < bins) {outcomes : List (Rat × Bool)}
    (h : ∀ o ∈ outcomes, isRate o.1) : isRate (exactReport bins outcomes).1 := by
  have hgap : ∀ b ∈ (List.range bins).map (exactBin bins outcomes), isRate b.gap := by
    intro b hb
    obtain ⟨index, hindex, rfl⟩ := List.mem_map.mp hb
    exact exactBin_gap (List.mem_range.mp hindex) h
  have htotal : (((List.range bins).map (exactBin bins outcomes)).map fun b => (b.count : Rat)).sum =
      outcomes.length := by
    rw [← sum_counts hexact hbins h, Nat.cast_list_sum]
    simp only [List.map_map]
    rfl
  rw [exactReport, ← htotal]
  exact ⟨Mean.weighted_nonneg (fun b _ => Nat.cast_nonneg _) fun b hb => (hgap b hb).1,
    Mean.weighted_le_one (fun b _ => Nat.cast_nonneg _) fun b hb => (hgap b hb).2⟩

omit [ScoringMath] in
theorem exactBin_perm {outcomes outcomes' : List (Rat × Bool)} (h : outcomes.Perm outcomes')
    (index : Nat) : exactBin bins outcomes index = exactBin bins outcomes' index := by
  have hbucket : (bucket bins index outcomes).Perm (bucket bins index outcomes') := h.filter _
  have hempty : bucket bins index outcomes = [] ↔ bucket bins index outcomes' = [] :=
    ⟨fun h => (h ▸ hbucket).nil_eq.symm, fun h => (h ▸ hbucket).eq_nil⟩
  simp only [exactBin, hempty, hbucket.length_eq, Mean.mean_perm (hbucket.map _)]

omit [ScoringMath] in
theorem exactReport_perm {outcomes outcomes' : List (Rat × Bool)} (h : outcomes.Perm outcomes') :
    exactReport bins outcomes = exactReport bins outcomes' := by
  have hbins : exactBin bins outcomes = exactBin bins outcomes' := funext (exactBin_perm h)
  rw [exactReport, exactReport, hbins, h.length_eq]

/-- The report counts every confidence in its bin, its error is the weighted mean of
the gaps, and neither the order nor the abstentions matter. -/
theorem calibration_report_laws (hexact : Exact) (hbins : 1 ≤ bins ∧ bins ≤ 100)
    (includeAbstentions : Bool) (haligned : Aligned pairs) :
    ∃ ece reliability,
      calibrationReport (pairs.map Prod.fst) (pairs.map Prod.snd) bins includeAbstentions =
        .ok (ece, (counted includeAbstentions pairs).length, reliability) ∧
      reliability =
        (List.range bins).map (exactBin bins (counted includeAbstentions pairs)) ∧
      (∀ o ∈ counted includeAbstentions pairs, ∃! index, index < bins ∧ InBin bins index o.1) ∧
      (reliability.map ReliabilityBin.count).sum = (counted includeAbstentions pairs).length ∧
      ece = (reliability.map fun b => (b.count : Rat) * b.gap).sum /
        (counted includeAbstentions pairs).length ∧
      (0 ≤ ece ∧ ece ≤ 1) ∧
      (∀ pairs', pairs.Perm pairs' →
        calibrationReport (pairs'.map Prod.fst) (pairs'.map Prod.snd) bins includeAbstentions =
          calibrationReport (pairs.map Prod.fst) (pairs.map Prod.snd) bins includeAbstentions) ∧
      ∀ front back answer p, pairs = front ++ back → includeAbstentions = false →
        p.abstained = true → p.caseId = answer.caseId → p.Valid →
        let pairs' := front ++ (answer, p) :: back
        calibrationReport (pairs'.map Prod.fst) (pairs'.map Prod.snd) bins includeAbstentions =
          calibrationReport (pairs.map Prod.fst) (pairs.map Prod.snd) bins includeAbstentions := by
  have hreport : calibrationReport (pairs.map Prod.fst) (pairs.map Prod.snd) bins
      includeAbstentions = .ok (exactReport bins (counted includeAbstentions pairs)) :=
    calibrationReport_eq hexact hbins haligned
  have hrates : ∀ o ∈ counted includeAbstentions pairs, isRate o.1 := counted_isRate haligned
  refine ⟨_, _, hreport, rfl, fun o ho => existsUnique_bin hexact hbins.1 (hrates o ho),
    sum_counts hexact hbins.1 hrates, rfl, exactReport_isRate hexact hbins.1 hrates, ?_, ?_⟩
  · intro pairs' hperm
    have haligned' : Aligned pairs' := fun pair hpair => haligned pair (hperm.mem_iff.mpr hpair)
    rw [hreport, calibrationReport_eq hexact hbins haligned']
    exact congrArg Except.ok (exactReport_perm ((hperm.filter _).map outcome)).symm
  · rintro front back answer p rfl rfl habstained hid hvalid pairs'
    have haligned' : Aligned pairs' := by
      intro pair hpair
      rcases List.perm_middle.mem_iff.mp hpair with _ | ⟨_, hpair⟩
      · exact ⟨hid, hvalid⟩
      · exact haligned pair hpair
    have hcounted : counted false pairs' = counted false (front ++ back) := by
      simp [counted, pairs', habstained]
    rw [hreport, calibrationReport_eq hexact hbins haligned', hcounted]

end

namespace Sample

theorem exact : Exact where
  add _ _ := rfl
  sub _ _ := rfl
  mul _ _ := rfl
  div _ _ := rfl
  square _ := rfl
  sum _ := rfl
  fsum _ := rfl
  log _ _ h := sub_nonpos.mpr h

/-- A prediction with its confidence on the edge of two bins. -/
def unsure : Prediction :=
  { prediction with
    rankedHypotheses := ["capacity", "release"]
    probabilities := [("release", 1 / 2), ("capacity", 1 / 2)] }

theorem aligned : Aligned [(answer, prediction), (answer, unsure)] := by
  unfold Aligned
  decide +kernel

theorem calibration_report_sample :
    ∃ reliability, calibrationReport [answer, answer] [prediction, unsure] 2 =
        .ok (1 / 4, 2, reliability) ∧ reliability.map ReliabilityBin.count = [0, 2] := by
  obtain ⟨ece, reliability, hreport, rfl, -, -, rfl, -⟩ :=
    calibration_report_laws exact (by decide : 1 ≤ 2 ∧ 2 ≤ 100) false aligned
  have hece : (exactReport 2 (counted false [(answer, prediction), (answer, unsure)])).1 = 1 / 4 ∧
      (counted false [(answer, prediction), (answer, unsure)]).length = 2 := by decide +kernel
  refine ⟨_, hreport.trans (congrArg Except.ok (Prod.ext hece.1 (Prod.ext hece.2 rfl))), ?_⟩
  decide +kernel

end Sample

end Paic.Evaluation
