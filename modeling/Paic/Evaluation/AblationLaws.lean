import Paic.Evaluation.Ablation
import Paic.Evaluation.Calibration
import Paic.Evaluation.Sample

/-!
# What an ablation leaves out

No term of an ablation is left in a case, whatever its text was, and the
hypotheses that a prediction keeps have their probabilities in the old
proportions. A second ablation finds nothing to do.
-/

namespace Paic.Evaluation

open Checks (raiseIf need bind_eq_ok raiseIf_ok need_ok pure_eq_ok mapM_ok)
open Investigation (FloatMath)
open Remediation (lengthIn)
open Replace (Free)
open Tools (UnicodeText lower contains)

/-- `str.lower`: what stands between two parts of a text and is of ASCII is
lowered letter by letter, whatever becomes of the parts. -/
class LowerLaws [UnicodeText] : Prop where
  lower_ascii_part : ∀ before word after : List Char, (∀ c ∈ word, c.toNat < 128) →
    word.map Char.toLower <:+: (lower (String.ofList (before ++ word ++ after))).toList

/-- The text holds the term, in small or capital letters of ASCII. -/
def Holds (term value : String) : Prop := term.toList <:+: value.toList.map Char.toLower

-- ---------------------------------------------------------------------------
-- Terms
-- ---------------------------------------------------------------------------

theorem mem_allTerms (h : term ∈ removedTerms config) : term ∈ allTerms :=
  (termsByLength_sublist config).subset ((List.perm_insertionSort _ _).mem_iff.mpr h)

theorem allTerms_ne_nil : ∀ term ∈ allTerms, term.toList ≠ [] := by decide

/-- Only letters of ASCII are lowered to letters of ASCII. -/
theorem toLower_ascii {c p : Char} (hp : p.isLower = true) (h : c.toLower = p) : c.toNat < 128 := by
  rw [Char.isLower, Bool.and_eq_true, decide_eq_true_eq, decide_eq_true_eq] at hp
  have hpn : p.toNat < 128 := by
    have hle : p.val.toNat ≤ 122 := hp.2
    exact Nat.lt_of_le_of_lt hle (by decide)
  unfold Char.toLower at h
  split at h
  · next hupper =>
    have hle : c.val.toNat ≤ 90 := hupper.2
    exact Nat.lt_of_le_of_lt hle (by decide)
  · exact h ▸ hpn

section
variable [CaseText] [CaseLaws]

/-- Where a lowered text begins with a term, the text does. -/
theorem begins_of_lower {term text : List Char} (hlower : ∀ p ∈ term, p.isLower = true)
    (h : term <+: text.map Char.toLower) : Replace.begins sameLetter term text = true := by
  induction term generalizing text with
  | nil => exact Replace.begins.eq_1 _ _
  | cons p term ih =>
    cases text with
    | nil => exact absurd (List.prefix_nil.mp h) (by rintro ⟨⟩)
    | cons c text =>
      obtain ⟨hp, hterm⟩ := List.forall_mem_cons.mp hlower
      obtain ⟨hc, hrest⟩ := List.cons_prefix_cons.mp h
      have hsame := (CaseLaws.sameLetter_ascii p c hp (toLower_ascii hp hc.symm)).mpr hc.symm
      rw [Replace.begins, hsame, ih hterm hrest]
      rfl

/-- A text that is free of a term does not hold it. -/
theorem not_holds_of_free (hterm : term ∈ allTerms) {value : String}
    (h : Free sameLetter term.toList value.toList) : ¬ Holds term value := by
  rintro ⟨before, after, hsplit⟩
  have hne := allTerms_ne_nil term hterm
  have hlength := congrArg List.length hsplit
  rw [List.length_append, List.length_append, List.length_map] at hlength
  have hpos := List.length_pos_of_ne_nil hne
  have hprefix : term.toList <+: (value.toList.drop before.length).map Char.toLower := by
    rw [List.map_drop, ← hsplit, List.append_assoc, List.drop_left]
    exact List.prefix_append _ _
  have hbegins := begins_of_lower (allTerms_lower term hterm) hprefix
  rw [h before.length (by omega)] at hbegins
  exact absurd hbegins nofun

/-- The terms, as they are replaced. -/
theorem redactTerms_free (config : AblationConfig) (value : String)
    (h : term ∈ removedTerms config) :
    Free sameLetter term.toList (redactTerms config value).toList := by
  have hall : ∀ t ∈ (termsByLength config).map String.toList, ∃ s ∈ allTerms, s.toList = t := by
    intro t ht
    obtain ⟨s, hs, rfl⟩ := List.mem_map.mp ht
    exact ⟨s, (termsByLength_sublist config).subset hs, rfl⟩
  have hfree := Replace.free_foldl (by decide : redactedMark ≠ [])
    (fun t ht => by obtain ⟨s, hs, rfl⟩ := hall t ht; exact allTerms_ne_nil s hs)
    (fun t ht => by obtain ⟨s, hs, rfl⟩ := hall t ht; exact term_marks hs) value.toList
    (List.mem_map_of_mem ((List.perm_insertionSort _ _).mem_iff.mpr h))
  rw [List.foldl_map] at hfree
  rw [redactTerms, String.toList_ofList]
  exact hfree

theorem redactTerms_idem (config : AblationConfig) (value : String) :
    redactTerms config (redactTerms config value) = redactTerms config value := by
  have hfree : ∀ t ∈ (termsByLength config).map String.toList,
      Free sameLetter t (redactTerms config value).toList := by
    intro t ht
    obtain ⟨s, hs, rfl⟩ := List.mem_map.mp ht
    exact redactTerms_free config value ((List.perm_insertionSort _ _).mem_iff.mp hs)
  have hsame : ((termsByLength config).map String.toList).foldl
      (fun text term => Replace.sub sameLetter redactedMark term 0 text)
        (redactTerms config value).toList = (redactTerms config value).toList :=
    Replace.foldl_of_free hfree
  rw [List.foldl_map] at hsame
  rw [redactTerms, hsame, String.ofList_toList]

variable [UnicodeText]

/-- What an ablation leaves of a case. -/
structure CaseLeft (config : AblationConfig) (case left : VisibleCase) : Prop where
  incidentInput : ∀ term ∈ removedTerms config, ¬ Holds term left.incidentInput
  evidenceIds : ∀ id ∈ left.evidenceIds, ∀ term ∈ removedTerms config, ¬ Holds term id
  allowedTools : ∀ tool ∈ left.allowedTools, ∀ term ∈ removedTerms config, ¬ Holds term tool
  keptIds : left.evidenceIds.Sublist case.evidenceIds
  keptTools : left.allowedTools.Sublist case.allowedTools
  droppedIds : ∀ id ∈ case.evidenceIds, id ∉ left.evidenceIds →
    ∃ term ∈ removedTerms config, contains (lower id) term = true
  droppedTools : ∀ tool ∈ case.allowedTools, tool ∉ left.allowedTools →
    ∃ term ∈ removedTerms config, contains (lower tool) term = true
  same : left.caseId = case.caseId ∧ left.family = case.family

omit [CaseText] [CaseLaws] [UnicodeText] in
theorem contains_iff {text marker : String} :
    contains text marker = true ↔ marker.toList <:+: text.toList := by
  rw [contains, List.any_eq_true]
  constructor
  · rintro ⟨rest, hrest, hprefix⟩
    exact (List.isPrefixOf_iff_prefix.mp hprefix).isInfix.trans
      ((List.mem_tails _ _).mp hrest).isInfix
  · rintro ⟨before, after, hsplit⟩
    refine ⟨marker.toList ++ after, (List.mem_tails _ _).mpr ⟨before, ?_⟩, ?_⟩
    · rw [← List.append_assoc, hsplit]
    · exact List.isPrefixOf_iff_prefix.mpr (List.prefix_append _ _)

omit [CaseText] [CaseLaws] in
/-- What is kept does not hold a term. -/
theorem not_holds_of_keep [LowerLaws] (hkeep : keepValue config value = true)
    (hterm : term ∈ removedTerms config) : ¬ Holds term value := by
  rintro ⟨before, after, hsplit⟩
  have hlength := congrArg List.length hsplit
  rw [List.length_append, List.length_append, List.length_map] at hlength
  -- the characters of the text that the term is spelled with
  let word := (value.toList.drop before.length).take term.toList.length
  have hword : word.map Char.toLower = term.toList := by
    rw [List.map_take, List.map_drop, ← hsplit, List.append_assoc, List.drop_left,
      List.take_left]
  have hvalue : value.toList = value.toList.take before.length ++ word ++
      (value.toList.drop before.length).drop term.toList.length := by
    rw [List.append_assoc, List.take_append_drop, List.take_append_drop]
  have hascii : ∀ c ∈ word, c.toNat < 128 := by
    intro c hc
    have hmem : c.toLower ∈ term.toList := hword ▸ List.mem_map_of_mem hc
    exact toLower_ascii (allTerms_lower term (mem_allTerms hterm) _ hmem) rfl
  have hpart := LowerLaws.lower_ascii_part (value.toList.take before.length) word
    ((value.toList.drop before.length).drop term.toList.length) hascii
  rw [← hvalue, String.ofList_toList, hword] at hpart
  have hfound : (removedTerms config).any (fun term => contains (lower value) term) = true :=
    List.any_eq_true.mpr ⟨term, hterm, contains_iff.mpr hpart⟩
  rw [keepValue, hfound] at hkeep
  exact absurd hkeep nofun

omit [CaseText] [CaseLaws] in
theorem dropped_of_not_keep {values : List String} (hv : value ∈ values)
    (hnot : value ∉ values.filter (keepValue config)) :
    ∃ term ∈ removedTerms config, contains (lower value) term = true := by
  rw [List.mem_filter, not_and, Bool.not_eq_true] at hnot
  have hdrop := hnot hv
  rw [keepValue, Bool.not_eq_false'] at hdrop
  exact List.any_eq_true.mp hdrop

/-- `resolve_ablation` leaves no term, and a second time nothing changes. -/
theorem resolveAblation_left [LowerLaws] (cases : List VisibleCase) (config : AblationConfig) :
    List.Forall₂ (CaseLeft config) cases (resolveAblation cases config) ∧
      resolveAblation (resolveAblation cases config) config = resolveAblation cases config := by
  constructor
  · rw [resolveAblation, List.forall₂_map_right_iff, List.forall₂_same]
    intro case _
    constructor
    case incidentInput =>
      exact fun term hterm => not_holds_of_free (mem_allTerms hterm) (redactTerms_free config _ hterm)
    case evidenceIds => exact fun id hid term => not_holds_of_keep (List.mem_filter.mp hid).2
    case allowedTools => exact fun tool htool term => not_holds_of_keep (List.mem_filter.mp htool).2
    case keptIds => exact List.filter_sublist
    case keptTools => exact List.filter_sublist
    case droppedIds => exact fun id => dropped_of_not_keep
    case droppedTools => exact fun tool => dropped_of_not_keep
    case same => exact ⟨rfl, rfl⟩
  · simp only [resolveAblation, List.map_map]
    refine List.map_congr_left fun case _ => ?_
    simp only [Function.comp_apply, redactTerms_idem, List.filter_filter, Bool.and_self]

end

-- ---------------------------------------------------------------------------
-- Predictions
-- ---------------------------------------------------------------------------

section
variable [ScoringMath]

/-- The probability that an ablation keeps. -/
def keptMass (maxHypotheses : Nat) (p : Prediction) : Rat :=
  ((p.rankedHypotheses.take maxHypotheses).map p.probabilityOf).sum

/-- What an ablation leaves of a prediction. -/
structure PredictionLeft (maxHypotheses : Nat) (p left : Prediction) : Prop where
  valid : left.Valid
  ranking : left.rankedHypotheses = p.rankedHypotheses.take maxHypotheses
  short : left.rankedHypotheses.length ≤ maxHypotheses
  nonneg : ∀ x ∈ left.probabilities.map Prod.snd, 0 ≤ x
  total : (left.probabilities.map Prod.snd).sum = 1
  ratios : ∀ a ∈ left.rankedHypotheses, ∀ b ∈ left.rankedHypotheses,
    left.probabilityOf a * p.probabilityOf b = left.probabilityOf b * p.probabilityOf a

variable {p : Prediction}

theorem Prediction.Valid.masses (hp : p.Valid) (maxHypotheses : Nat) :
    (p.rankedHypotheses.take maxHypotheses).mapM p.probability =
      .ok ((p.rankedHypotheses.take maxHypotheses).map p.probabilityOf) := by
  refine Checks.mapM_eq_map fun item hitem => ?_
  have hmem := (hp.sameKeys item).mpr (List.mem_of_mem_take hitem)
  obtain ⟨⟨name, x⟩, hx, rfl⟩ := List.mem_map.mp hmem
  have hlookup := Entries.lookup_of_mem hp.probabilities.2 hx
  rw [Prediction.probability, Prediction.probabilityOf, hlookup]
  rfl

theorem probabilityOf_isRate (hp : p.Valid) (item : String) : isRate (p.probabilityOf item) := by
  rw [Prediction.probabilityOf]
  cases hlookup : p.probabilities.lookup item with
  | none => exact ⟨le_refl _, by decide⟩
  | some x => exact hp.sumsToOne.1 x (List.mem_map_of_mem (Entries.mem_of_lookup hlookup))

omit [ScoringMath] in
theorem lookup_zip_map {keys : List String} {f : String → Rat} (h : key ∈ keys) :
    (keys.zip (keys.map f)).lookup key = some (f key) := by
  induction keys with
  | nil => exact absurd h List.not_mem_nil
  | cons k keys ih =>
    rw [List.map_cons, List.zip_cons_cons, List.lookup_cons]
    by_cases hk : key = k
    · simp [hk]
    · simp only [beq_eq_false_iff_ne.mpr hk]
      exact ih ((List.mem_cons.mp h).resolve_left hk)

/-- The kept hypotheses with their shares of what is kept. -/
def leftOf (abstentionEnabled : Bool) (maxHypotheses : Nat) (p : Prediction) : Prediction :=
  let ranked := p.rankedHypotheses.take maxHypotheses
  { p with
    rankedHypotheses := ranked
    probabilities := ranked.zip (ranked.map fun item => p.probabilityOf item / keptMass maxHypotheses p)
    abstained := if abstentionEnabled then p.abstained else false }

omit [ScoringMath] in
theorem leftOf_keys (abstentionEnabled : Bool) (maxHypotheses : Nat) (p : Prediction) :
    (leftOf abstentionEnabled maxHypotheses p).probabilities.map Prod.fst =
      p.rankedHypotheses.take maxHypotheses :=
  List.map_fst_zip (by rw [List.length_map])

omit [ScoringMath] in
theorem leftOf_values (abstentionEnabled : Bool) (maxHypotheses : Nat) (p : Prediction) :
    (leftOf abstentionEnabled maxHypotheses p).probabilities.map Prod.snd =
      (p.rankedHypotheses.take maxHypotheses).map fun item =>
        p.probabilityOf item / keptMass maxHypotheses p :=
  List.map_snd_zip (by rw [List.length_map])

omit [ScoringMath] in
theorem leftOf_probabilityOf (h : item ∈ p.rankedHypotheses.take maxHypotheses) :
    (leftOf abstentionEnabled maxHypotheses p).probabilityOf item =
      p.probabilityOf item / keptMass maxHypotheses p := by
  rw [Prediction.probabilityOf, leftOf, lookup_zip_map h]
  rfl

omit [ScoringMath] in
theorem leftOf_sum (hmass : 0 < keptMass maxHypotheses p) :
    ((leftOf abstentionEnabled maxHypotheses p).probabilities.map Prod.snd).sum = 1 := by
  rw [leftOf_values]
  simp only [div_eq_mul_inv]
  rw [List.sum_map_mul_right]
  exact mul_inv_cancel₀ (ne_of_gt hmass)

omit [ScoringMath] in
/-- What is kept is all there is, and its sum is one. -/
theorem leftOf_again (abstentionEnabled : Bool) (hmass : 0 < keptMass maxHypotheses p) :
    keptMass maxHypotheses (leftOf abstentionEnabled maxHypotheses p) = 1 ∧
      leftOf abstentionEnabled maxHypotheses (leftOf abstentionEnabled maxHypotheses p) =
        leftOf abstentionEnabled maxHypotheses p := by
  have htake : (p.rankedHypotheses.take maxHypotheses).take maxHypotheses =
      p.rankedHypotheses.take maxHypotheses := by
    rw [List.take_take, Nat.min_self]
  have hvalues : ∀ item ∈ p.rankedHypotheses.take maxHypotheses,
      (leftOf abstentionEnabled maxHypotheses p).probabilityOf item =
        p.probabilityOf item / keptMass maxHypotheses p := fun item => leftOf_probabilityOf
  have hsum : keptMass maxHypotheses (leftOf abstentionEnabled maxHypotheses p) = 1 := by
    have htotal : ((leftOf abstentionEnabled maxHypotheses p).probabilities.map Prod.snd).sum = 1 :=
      leftOf_sum hmass
    rw [leftOf_values, ← List.map_congr_left hvalues] at htotal
    change (List.map _ ((p.rankedHypotheses.take maxHypotheses).take maxHypotheses)).sum = 1
    rwa [htake]
  refine ⟨hsum, ?_⟩
  have hquotients : (p.rankedHypotheses.take maxHypotheses).map (fun item =>
      (leftOf abstentionEnabled maxHypotheses p).probabilityOf item / 1) =
      (p.rankedHypotheses.take maxHypotheses).map fun item =>
        p.probabilityOf item / keptMass maxHypotheses p :=
    List.map_congr_left fun item hitem => by rw [div_one, hvalues item hitem]
  rw [leftOf, hsum]
  change Prediction.mk _ (List.take _ (List.take _ _)) (List.zip (List.take _ (List.take _ _))
    (List.map _ (List.take _ (List.take _ _)))) _ _ _ _ _ _ _ _ _ _ _ _ = _
  rw [htake, hquotients]
  cases abstentionEnabled <;> rfl

variable (hexact : Exact)
include hexact

theorem leftOf_valid (hp : p.Valid) (hmass : 0 < keptMass maxHypotheses p) :
    (leftOf abstentionEnabled maxHypotheses p).Valid := by
  have hkeys := leftOf_keys abstentionEnabled maxHypotheses p
  have hnodup : (p.rankedHypotheses.take maxHypotheses).Nodup :=
    hp.rankedHypotheses.2.sublist (List.take_sublist _ _)
  have hlength : lengthIn (p.rankedHypotheses.take maxHypotheses) 1 30 := by
    refine ⟨Nat.one_le_iff_ne_zero.mpr fun hzero => ?_, ?_⟩
    · rw [keptMass, List.length_eq_zero_iff.mp hzero] at hmass
      exact absurd hmass (lt_irrefl _)
    · exact (List.length_take_le' _ _).trans hp.rankedHypotheses.1.2
  have hrates : ∀ x ∈ (leftOf abstentionEnabled maxHypotheses p).probabilities.map Prod.snd,
      isRate x := by
    intro x hx
    rw [leftOf_values] at hx
    obtain ⟨item, hitem, rfl⟩ := List.mem_map.mp hx
    have hle : p.probabilityOf item ≤ keptMass maxHypotheses p := by
      refine List.single_le_sum (fun y hy => ?_) _ (List.mem_map_of_mem hitem)
      obtain ⟨other, -, rfl⟩ := List.mem_map.mp hy
      exact (probabilityOf_isRate hp other).1
    exact ⟨div_nonneg (probabilityOf_isRate hp item).1 hmass.le, (div_le_one hmass).mpr hle⟩
  constructor
  case caseId => exact hp.caseId
  case rankedHypotheses => exact ⟨hlength, hnodup⟩
  case probabilities =>
    refine ⟨?_, hkeys ▸ hnodup⟩
    have hsame := congrArg List.length hkeys
    rw [List.length_map] at hsame
    rw [lengthIn, hsame]
    exact hlength
  case citedEvidenceIds => exact hp.citedEvidenceIds
  case claims => exact hp.claims
  case toolCalls => exact hp.toolCalls
  case toolFailures => exact hp.toolFailures
  case proposedClass => exact hp.proposedClass
  case authorizedClass => exact hp.authorizedClass
  case sameKeys =>
    intro name
    rw [hkeys]
    rfl
  case sumsToOne =>
    refine ⟨hrates, ?_⟩
    rw [hexact.sum, hexact.sub, leftOf_sum hmass, sub_self]
    decide +kernel
  case providerUsage => exact hp.providerUsage
  case provenance => exact hp.provenance

theorem resolvePrediction_eq (hp : p.Valid) (abstentionEnabled : Bool) (maxHypotheses : Nat) :
    resolvePrediction abstentionEnabled maxHypotheses p =
      if 0 < keptMass maxHypotheses p then .ok (leftOf abstentionEnabled maxHypotheses p)
      else .error (.benchmarkError "ablation removed all positive probability mass") := by
  let left := leftOf abstentionEnabled maxHypotheses p
  have hrun : resolvePrediction abstentionEnabled maxHypotheses p = (do
      raiseIf (keptMass maxHypotheses p ≤ 0)
        (.benchmarkError "ablation removed all positive probability mass")
      raiseIf (¬ left.Valid) .validationError
      pure left) := by
    rw [resolvePrediction, hp.masses maxHypotheses, Checks.ok_bind, hexact.fsum]
    simp only [hexact.div, List.map_map]
    rfl
  rw [hrun]
  by_cases hmass : 0 < keptMass maxHypotheses p
  · have hvalid : left.Valid := leftOf_valid hexact hp hmass
    rw [if_pos hmass]
    exact bind_eq_ok.mpr ⟨(), Checks.raiseIf_neg (not_le.mpr hmass),
      bind_eq_ok.mpr ⟨(), Checks.raiseIf_neg (not_not.mpr hvalid), rfl⟩⟩
  · rw [if_neg hmass, raiseIf, if_pos (not_lt.mp hmass)]
    rfl

/-- `resolve_prediction_ablation` of one prediction. -/
theorem resolvePrediction_left (hp : p.Valid) (abstentionEnabled : Bool) (maxHypotheses : Nat) :
    (keptMass maxHypotheses p = 0 ∧ resolvePrediction abstentionEnabled maxHypotheses p =
      .error (.benchmarkError "ablation removed all positive probability mass")) ∨
    ∃ left, resolvePrediction abstentionEnabled maxHypotheses p = .ok left ∧
      PredictionLeft maxHypotheses p left ∧
      resolvePrediction abstentionEnabled maxHypotheses left = .ok left := by
  rw [resolvePrediction_eq hexact hp]
  by_cases hmass : 0 < keptMass maxHypotheses p
  · right
    rw [if_pos hmass]
    have hvalid : (leftOf abstentionEnabled maxHypotheses p).Valid := leftOf_valid hexact hp hmass
    refine ⟨_, rfl, ?_, ?_⟩
    · constructor
      case valid => exact hvalid
      case ranking => rfl
      case short => exact List.length_take_le _ _
      case nonneg => exact fun x hx => (hvalid.sumsToOne.1 x hx).1
      case total => exact leftOf_sum hmass
      case ratios =>
        intro a ha b hb
        rw [leftOf_probabilityOf ha, leftOf_probabilityOf hb]
        ring
    · have hone := leftOf_again abstentionEnabled hmass
      rw [resolvePrediction_eq hexact hvalid, hone.1, if_pos one_pos, hone.2]
  · left
    rw [if_neg hmass]
    have hnonneg : 0 ≤ keptMass maxHypotheses p := by
      refine List.sum_nonneg fun y hy => ?_
      obtain ⟨item, -, rfl⟩ := List.mem_map.mp hy
      exact (probabilityOf_isRate hp item).1
    exact ⟨le_antisymm (not_lt.mp hmass) hnonneg, rfl⟩

theorem resolvePredictionAblation_left {predictions : List Prediction}
    (hp : ∀ p ∈ predictions, p.Valid) (abstentionEnabled : Bool) (maxHypotheses : Nat) :
    (∃ p ∈ predictions, keptMass maxHypotheses p = 0 ∧
      resolvePredictionAblation predictions abstentionEnabled maxHypotheses =
        .error (.benchmarkError "ablation removed all positive probability mass")) ∨
    ∃ left, resolvePredictionAblation predictions abstentionEnabled maxHypotheses = .ok left ∧
      List.Forall₂ (PredictionLeft maxHypotheses) predictions left ∧
      resolvePredictionAblation left abstentionEnabled maxHypotheses = .ok left := by
  induction predictions with
  | nil => exact .inr ⟨[], rfl, .nil, rfl⟩
  | cons p predictions ih =>
    obtain ⟨hhead, hrest⟩ := List.forall_mem_cons.mp hp
    rcases resolvePrediction_left hexact hhead abstentionEnabled maxHypotheses with
      ⟨hzero, herror⟩ | ⟨q, hq, hleft, hagain⟩
    · refine .inl ⟨p, List.mem_cons_self, hzero, ?_⟩
      rw [resolvePredictionAblation, List.mapM_cons, herror]
      rfl
    · rcases ih hrest with ⟨p', hp', hzero, herror⟩ | ⟨left, hok, hall, hsame⟩
      · refine .inl ⟨p', List.mem_cons_of_mem _ hp', hzero, ?_⟩
        rw [resolvePredictionAblation] at herror ⊢
        rw [List.mapM_cons, hq, Checks.ok_bind, herror]
        rfl
      · rw [resolvePredictionAblation] at hok hsame
        refine .inr ⟨q :: left, ?_, .cons hleft hall, ?_⟩
        · rw [resolvePredictionAblation, List.mapM_cons, hq, Checks.ok_bind, hok]
          rfl
        · rw [resolvePredictionAblation, List.mapM_cons, hagain, Checks.ok_bind, hsame]
          rfl

/-- The two ablations are complete, and a second time they change nothing. -/
theorem ablation_complete [CaseText] [CaseLaws] [UnicodeText] [LowerLaws] :
    (∀ (cases : List VisibleCase) (config : AblationConfig),
      List.Forall₂ (CaseLeft config) cases (resolveAblation cases config) ∧
        resolveAblation (resolveAblation cases config) config = resolveAblation cases config) ∧
    ∀ (predictions : List Prediction) (abstentionEnabled : Bool) (maxHypotheses : Nat),
      (∀ p ∈ predictions, p.Valid) →
      (∃ p ∈ predictions, keptMass maxHypotheses p = 0 ∧
        resolvePredictionAblation predictions abstentionEnabled maxHypotheses =
          .error (.benchmarkError "ablation removed all positive probability mass")) ∨
      ∃ left, resolvePredictionAblation predictions abstentionEnabled maxHypotheses = .ok left ∧
        List.Forall₂ (PredictionLeft maxHypotheses) predictions left ∧
        resolvePredictionAblation left abstentionEnabled maxHypotheses = .ok left :=
  ⟨resolveAblation_left, fun _ abstentionEnabled maxHypotheses hp =>
    resolvePredictionAblation_left hexact hp abstentionEnabled maxHypotheses⟩

end

namespace Sample

instance : LowerLaws where
  lower_ascii_part before word after _ := by
    have hlower : (lower (String.ofList (before ++ word ++ after))).toList =
        (before ++ word ++ after).map Char.toLower := by simp [lower]
    rw [hlower, List.map_append, List.map_append]
    exact List.infix_append _ _ _

/-- A term in a case goes, and of two hypotheses the first one has all. -/
theorem ablation_complete_sample :
    (∀ text, ∀ c ∈ resolveAblation [case text] config.ablation,
      ¬ Holds "lineage" c.incidentInput) ∧
    ∃ left, resolvePredictionAblation [unsure] true 1 = .ok left ∧
      left.map (fun p => p.rankedHypotheses) = [["capacity"]] := by
  obtain ⟨hcases, hpredictions⟩ := ablation_complete exact
  constructor
  · intro text c hc
    obtain ⟨hall, -⟩ := hcases [case text] config.ablation
    obtain ⟨hleft, -⟩ := List.forall₂_cons.mp hall
    obtain rfl := List.mem_singleton.mp hc
    exact hleft.incidentInput "lineage" (by decide)
  · have hunsure : ∀ p ∈ [unsure], p.Valid := by
      rw [List.forall_mem_singleton]
      decide +kernel
    rcases hpredictions [unsure] true 1 hunsure with ⟨p, hp, hzero, -⟩ | ⟨left, hok, hall, -⟩
    · obtain rfl := List.mem_singleton.mp hp
      exact absurd hzero (by decide +kernel)
    · refine ⟨left, hok, ?_⟩
      obtain ⟨q, rest, hleft, hrest, rfl⟩ := List.forall₂_cons_left_iff.mp hall
      obtain rfl := List.forall₂_nil_left_iff.mp hrest
      rw [List.map_singleton, hleft.ranking]
      rfl

end Sample

end Paic.Evaluation
