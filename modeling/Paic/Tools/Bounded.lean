import Paic.Lib.Longest
import Paic.Tools.Models

/-!
# The bounds of a result

`Gateway._bounded` cuts the rows of a tool to the limits of the gateway, and
the end of `sql.execute` those of a query. Both keep the longest prefix within
the limits, and say so when it is not all of the rows.
-/

namespace Paic.Tools

open Checks (raiseIf)
open Longest (IsLongest)

section
variable [Hashing]

/-- `len(canonical(value).encode())` -/
def encodedSize (value : Json) : Nat := (canonical value).utf8ByteSize

structure Limits where
  rowLimit : Nat
  byteLimit : Nat

/-- The loop of `_bounded`. -/
def popOversized (byteLimit : Nat) (result : List Json) (truncated : Bool) : List Json × Bool :=
  if h : result ≠ [] ∧ byteLimit < encodedSize (.arr result) then
    have : result.length - 1 < result.length :=
      Nat.sub_lt (List.length_pos_iff.mpr h.1) Nat.zero_lt_one
    popOversized byteLimit result.dropLast true
  else (result, truncated)
termination_by result.length
decreasing_by rwa [List.length_dropLast]

/-- `Gateway._bounded` -/
def bounded (limits : Limits) (value : Json) : Except Error (Json × Bool) :=
  match value with
  | .arr rows =>
    let result := rows.take limits.rowLimit
    let truncated := decide (result.length < rows.length)
    let (result, truncated) := popOversized limits.byteLimit result truncated
    .ok (.arr result, truncated)
  | value => do
    raiseIf (limits.byteLimit < encodedSize value) (.gatewayError "tool result exceeds byte limit")
    pure (value, false)

/-- The last loop of `execute`. -/
def trimRows (byteLimit : Nat) (rows : List Json) (truncated : Bool) : List Json × Bool :=
  if h : rows = [] then (rows, truncated)
  else if encodedSize (.arr rows) ≤ byteLimit then (rows, truncated)
  else
    have : rows.length - 1 < rows.length := Nat.sub_lt (List.length_pos_iff.mpr h) Nat.zero_lt_one
    trimRows byteLimit rows.dropLast true
termination_by rows.length
decreasing_by rwa [List.length_dropLast]

/-- What `execute` makes of the rows of a query. -/
def limitedRows (limits : Limits) (rows : List Json) : List Json × Bool :=
  trimRows limits.byteLimit (rows.take limits.rowLimit) (decide (limits.rowLimit < rows.length))

/-- `requested_limit or active.row_limit`, which is at most that of the policy. -/
def requestedLimits (policy : Limits) (requestedLimit : Option Nat) : Limits :=
  let requested := if requestedLimit.getD 0 = 0 then policy.rowLimit else requestedLimit.getD 0
  { policy with rowLimit := min requested policy.rowLimit }

/-- The result of `execute`, from the rows of the query. -/
def executedRows (policy : Limits) (requestedLimit : Option Nat) (rows : List Json) :
    List Json × Bool := limitedRows (requestedLimits policy requestedLimit) rows

-- ---------------------------------------------------------------------------
-- The loops
-- ---------------------------------------------------------------------------

/-- No rows, or rows within the limit. -/
def Fits (byteLimit : Nat) (rows : List Json) : Prop :=
  rows = [] ∨ encodedSize (.arr rows) ≤ byteLimit

theorem not_fits : ¬ Fits byteLimit rows ↔ rows ≠ [] ∧ byteLimit < encodedSize (.arr rows) := by
  rw [Fits, not_or, not_le]

/-- A loop pops from the rows as long as they do not fit. -/
theorem popOversized_eq (byteLimit : Nat) (rows : List Json) (truncated : Bool) :
    popOversized byteLimit rows truncated = trimRows byteLimit rows truncated := by
  induction hn : rows.length using Nat.strong_induction_on generalizing rows truncated with
  | _ n ih =>
    rw [popOversized, trimRows]
    by_cases hrows : rows = []
    · rw [dif_neg fun h => h.1 hrows, dif_pos hrows]
    · rw [dif_neg hrows]
      by_cases hsize : encodedSize (.arr rows) ≤ byteLimit
      · rw [if_pos hsize, dif_neg fun h => not_lt.mpr hsize h.2]
      · rw [if_neg hsize, dif_pos ⟨hrows, not_le.mp hsize⟩]
        refine ih _ ?_ rows.dropLast true rfl
        rw [List.length_dropLast, ← hn]
        exact Nat.sub_lt (List.length_pos_iff.mpr hrows) Nat.zero_lt_one

theorem trimRows_longest (byteLimit : Nat) (rows : List Json) (truncated : Bool) :
    IsLongest (Fits byteLimit) rows (trimRows byteLimit rows truncated).1 ∧
      ((trimRows byteLimit rows truncated).2 = true ↔
        truncated = true ∨ (trimRows byteLimit rows truncated).1 ≠ rows) := by
  induction hn : rows.length using Nat.strong_induction_on generalizing rows truncated with
  | _ n ih =>
    rw [trimRows]
    by_cases hrows : rows = []
    · rw [dif_pos hrows]
      exact ⟨Longest.isLongest_self (.inl hrows), by simp⟩
    · rw [dif_neg hrows]
      by_cases hsize : encodedSize (.arr rows) ≤ byteLimit
      · rw [if_pos hsize]
        exact ⟨Longest.isLongest_self (.inr hsize), by simp⟩
      · rw [if_neg hsize]
        have hlt : rows.dropLast.length < n := by
          rw [List.length_dropLast, ← hn]
          exact Nat.sub_lt (List.length_pos_iff.mpr hrows) Nat.zero_lt_one
        obtain ⟨hlongest, hflag⟩ := ih _ hlt rows.dropLast true rfl
        refine ⟨Longest.isLongest_dropLast (not_fits.mpr ⟨hrows, not_le.mp hsize⟩) hlongest, ?_⟩
        have hshort := hlongest.isPrefix.length_le
        have hne : (trimRows byteLimit rows.dropLast true).1 ≠ rows := by
          intro heq
          rw [heq, hn] at hshort
          exact absurd hlt (not_lt.mpr hshort)
        simp only [hflag, true_or, hne, ne_eq, not_false_eq_true, or_true]

-- ---------------------------------------------------------------------------
-- The encoded size
-- ---------------------------------------------------------------------------

/-- `json.dumps` of a list: its items between brackets, with commas. -/
class CanonicalLists : Prop where
  canonical_arr : ∀ items : List Json,
    canonical (.arr items) = "[" ++ ",".intercalate (items.map canonical) ++ "]"

variable [CanonicalLists]

theorem encodedSize_arr (items : List Json) : encodedSize (.arr items) =
    (",".intercalate (items.map canonical)).utf8ByteSize + 2 := by
  rw [encodedSize, CanonicalLists.canonical_arr, String.utf8ByteSize_append,
    String.utf8ByteSize_append]
  change 1 + _ + 1 = _
  omega

/-- More rows are not encoded in fewer bytes. -/
theorem encodedSize_append (rows more : List Json) :
    encodedSize (.arr rows) ≤ encodedSize (.arr (rows ++ more)) := by
  rw [encodedSize_arr, encodedSize_arr, List.map_append]
  refine Nat.add_le_add_right ?_ 2
  by_cases hrows : rows.map canonical = []
  · rw [hrows, String.intercalate_nil]
    exact Nat.zero_le _
  · by_cases hmore : more.map canonical = []
    · rw [hmore, List.append_nil]
    · rw [String.intercalate_append_of_ne_nil hrows hmore, String.utf8ByteSize_append,
        String.utf8ByteSize_append]
      omega

-- ---------------------------------------------------------------------------
-- The results
-- ---------------------------------------------------------------------------

/-- The longest prefix of the rows within the limits, and whether it is shorter
than they are. -/
structure ResultBounds (limits : Limits) (rows result : List Json) (truncated : Bool) : Prop where
  isPrefix : result <+: rows
  rowsWithin : result.length ≤ limits.rowLimit
  bytesWithin : result = [] ∨ encodedSize (.arr result) ≤ limits.byteLimit
  longest : ∀ p, p <+: rows → p.length ≤ limits.rowLimit →
    encodedSize (.arr p) ≤ limits.byteLimit → p.length ≤ result.length
  tooLarge : ∀ row ∈ rows.head?, limits.byteLimit < encodedSize (.arr [row]) → result = []
  cut : truncated = true ↔ result ≠ rows
  complete : truncated = false → result = rows

theorem limitedRows_bounds (limits : Limits) (rows : List Json) :
    ResultBounds limits rows (limitedRows limits rows).1 (limitedRows limits rows).2 := by
  obtain ⟨hlongest, hflag⟩ := trimRows_longest limits.byteLimit (rows.take limits.rowLimit)
    (decide (limits.rowLimit < rows.length))
  have hprefix := Longest.isLongest_take hlongest
  have htruncated : (limitedRows limits rows).2 = true ↔ (limitedRows limits rows).1 ≠ rows := by
    refine hflag.trans ?_
    rw [decide_eq_true_eq]
    by_cases hle : rows.length ≤ limits.rowLimit
    · rw [limitedRows, List.take_of_length_le hle]
      exact or_iff_right (not_lt.mpr hle)
    · have hshort := hprefix.fit.1
      refine iff_of_true (.inl (not_le.mp hle)) fun heq => hle ?_
      exact heq ▸ hshort
  constructor
  case isPrefix => exact hprefix.isPrefix
  case rowsWithin => exact hprefix.fit.1
  case bytesWithin => exact hprefix.fit.2
  case longest => exact fun p hp hlength hsize => hprefix.longest p hp ⟨hlength, .inr hsize⟩
  case tooLarge =>
    intro row hrow hlarge
    by_contra hne
    obtain ⟨first, rest, hresult⟩ := List.exists_cons_of_ne_nil hne
    obtain ⟨more, hmore⟩ := hprefix.isPrefix
    have hfirst : first = row := by
      change (limitedRows limits rows).1 ++ more = rows at hmore
      rw [← hmore, hresult] at hrow
      exact Option.some.inj hrow
    have hsize := hprefix.fit.2.resolve_left hne
    change encodedSize (.arr (limitedRows limits rows).1) ≤ _ at hsize
    rw [hresult, hfirst] at hsize
    exact absurd ((encodedSize_append [row] rest).trans hsize) (not_le.mpr hlarge)
  case cut => exact htruncated
  case complete =>
    intro hfalse
    by_contra hne
    rw [htruncated.mpr hne] at hfalse
    contradiction

omit [CanonicalLists] in
theorem bounded_rows (limits : Limits) (rows : List Json) : bounded limits (.arr rows) =
    .ok (.arr (limitedRows limits rows).1, (limitedRows limits rows).2) := by
  have hflag : decide ((rows.take limits.rowLimit).length < rows.length) =
      decide (limits.rowLimit < rows.length) := by
    rw [List.length_take]
    exact decide_eq_decide.mpr (by omega)
  simp only [bounded, popOversized_eq, hflag]
  rfl

/-- `Gateway._bounded` and the end of `sql.execute` return the same rows, the
longest prefix within the limits. A query may ask for fewer rows. -/
theorem results_bounded (limits : Limits) (rows : List Json) :
    (∃ result truncated, bounded limits (.arr rows) = .ok (.arr result, truncated) ∧
      executedRows limits none rows = (result, truncated) ∧
        ResultBounds limits rows result truncated) ∧
      ∀ requestedLimit, ResultBounds (requestedLimits limits requestedLimit) rows
        (executedRows limits requestedLimit rows).1 (executedRows limits requestedLimit rows).2 := by
  have hnone : requestedLimits limits none = limits := by
    simp only [requestedLimits, Option.getD_none, if_true, min_self]
  refine ⟨⟨_, _, bounded_rows limits rows, ?_, limitedRows_bounds limits rows⟩, fun requestedLimit =>
    limitedRows_bounds _ rows⟩
  rw [executedRows, hnone]

end

namespace Sample

mutual
/-- `json.dumps` of integers and lists. -/
def dumps : Json → String
  | .int n => toString n
  | .arr items => "[" ++ ",".intercalate (dumpsItems items) ++ "]"
  | _ => "null"
def dumpsItems : List Json → List String
  | [] => []
  | item :: items => dumps item :: dumpsItems items
end

theorem dumpsItems_eq (items : List Json) : dumpsItems items = items.map dumps := by
  induction items with
  | nil => rfl
  | cons item items ih => rw [dumpsItems, ih, List.map_cons]

abbrev hashing : Hashing where
  canonical := dumps
  isoformat _ := ""
  strDatetime _ := ""
  sha256 _ := zeroHash
  hmac _ _ := zeroHash
  sha256_hex _ := zeroHash_isSha256
  hmac_hex _ _ := zeroHash_isSha256

attribute [local instance] hashing

theorem canonicalLists : CanonicalLists where
  canonical_arr items := by
    change dumps (.arr items) = "[" ++ ",".intercalate (items.map dumps) ++ "]"
    rw [dumps, dumpsItems_eq]

/-- Three rows, of which two are within seven bytes. -/
theorem results_bounded_sample : (∃ result truncated,
      bounded ⟨3, 7⟩ (.arr [.int 1, .int 22, .int 333]) = .ok (.arr result, truncated) ∧
        executedRows ⟨3, 7⟩ none [.int 1, .int 22, .int 333] = (result, truncated) ∧
          ResultBounds ⟨3, 7⟩ [.int 1, .int 22, .int 333] result truncated) ∧
      ∀ requestedLimit, ResultBounds (requestedLimits ⟨3, 7⟩ requestedLimit)
        [.int 1, .int 22, .int 333]
        (executedRows ⟨3, 7⟩ requestedLimit [.int 1, .int 22, .int 333]).1
        (executedRows ⟨3, 7⟩ requestedLimit [.int 1, .int 22, .int 333]).2 :=
  haveI := canonicalLists
  results_bounded ⟨3, 7⟩ [.int 1, .int 22, .int 333]

end Sample

end Paic.Tools
