import Mathlib

/-!
# Hash chains

Records that are numbered in order, each naming the hash of the one before.
`link n previous r` says that a record is fit to be the `n`-th, after the
hash `previous`. Where a hash fixes its record, the last hash of a chain
fixes the whole of it.
-/

namespace Paic.Chain

variable {β η : Type} (link : Nat → η → β → Prop) (hash : β → η)

def Chained : Nat → η → List β → Prop
  | _, _, [] => True
  | n, previous, r :: rest => link n previous r ∧ Chained (n + 1) (hash r) rest

/-- The hash that the next record has to name. -/
def head (start : η) (records : List β) : η := (records.getLast?.map hash).getD start

variable {link hash} {start : η} {records records' : List β}

@[simp] theorem head_nil : head hash start [] = start := rfl

@[simp] theorem head_snoc : head hash start (records ++ [r]) = hash r := by
  simp [head]

theorem head_cons : head hash start (r :: records) = head hash (hash r) records := by
  cases records with
  | nil => rfl
  | cons s rest =>
    have hlast : (r :: s :: rest).getLast? = (s :: rest).getLast? := List.getLast?_cons_cons
    obtain ⟨last, hsome⟩ := Option.isSome_iff_exists.mp
      (show (s :: rest).getLast?.isSome = true by simp)
    rw [head, head, hlast, hsome]
    rfl

/-- A chain grows by a record that is fit to be the next. -/
theorem chained_snoc : Chained link hash n start (records ++ [r]) ↔
    Chained link hash n start records ∧ link (n + records.length) (head hash start records) r := by
  induction records generalizing n start with
  | nil => simp [Chained]
  | cons s rest ih =>
    rw [List.cons_append, Chained, ih, Chained, head_cons, List.length_cons, and_assoc,
      Nat.add_right_comm, Nat.add_assoc n]

theorem chained_get (h : Chained link hash n start records) (i : Nat) (hi : i < records.length) :
    ∃ previous, link (n + i) previous records[i] := by
  induction records generalizing n start i with
  | nil => exact absurd hi (Nat.not_lt_zero _)
  | cons r rest ih =>
    cases i with
    | zero => exact ⟨start, h.1⟩
    | succ i =>
      obtain ⟨previous, hlink⟩ := ih h.2 i (Nat.lt_of_succ_lt_succ hi)
      exact ⟨previous, by rwa [Nat.add_assoc, Nat.add_comm 1 i] at hlink⟩

/-- The last hash of a chain fixes the chain: hashes fix their records, and a
record fits one place after one hash only. -/
theorem commits {same : β → β → Prop}
    (hsame : ∀ r ∈ records, ∀ r' ∈ records', hash r = hash r' → same r r')
    (hlink : ∀ {m n p q r r'}, same r r' → link m p r → link n q r' → m = n ∧ p = q)
    (h : Chained link hash n start records) (h' : Chained link hash n start records')
    (hne : records ≠ []) (hne' : records' ≠ [])
    (hhead : head hash start records = head hash start records') :
    List.Forall₂ same records records' := by
  induction records using List.reverseRecOn generalizing records' with
  | nil => exact absurd rfl hne
  | append_singleton init r ih =>
    obtain ⟨init', r', rfl⟩ := List.eq_nil_or_concat records' |>.resolve_left hne'
    rw [List.concat_eq_append] at *
    obtain ⟨hinit, hr⟩ := chained_snoc.mp h
    obtain ⟨hinit', hr'⟩ := chained_snoc.mp h'
    have hrr : same r r' := hsame r (by simp) r' (by simp) (by simpa using hhead)
    obtain ⟨hlength, hprevious⟩ := hlink hrr hr hr'
    have hinits : List.Forall₂ same init init' := by
      by_cases hnil : init = []
      · subst hnil
        obtain rfl : init' = [] := List.length_eq_zero_iff.mp (by simpa using hlength.symm)
        exact .nil
      · have hnil' : init' ≠ [] := by
          rintro rfl
          exact hnil (List.length_eq_zero_iff.mp (by simpa using hlength))
        exact ih (fun r hr r' hr' => hsame r (List.mem_append_left _ hr) r'
          (List.mem_append_left _ hr')) hinit hinit' hnil hnil' hprevious
    exact List.rel_append hinits (.cons hrr .nil)

/-- The same of two chains of which either may be empty. -/
theorem commits_last {same : β → β → Prop}
    (hsame : ∀ r ∈ records, ∀ r' ∈ records', hash r = hash r' → same r r')
    (hlink : ∀ {m n p q r r'}, same r r' → link m p r → link n q r' → m = n ∧ p = q)
    (h : Chained link hash n start records) (h' : Chained link hash n start records')
    (hlast : records.getLast?.map hash = records'.getLast?.map hash) :
    List.Forall₂ same records records' := by
  by_cases hne : records = []
  · subst hne
    obtain rfl : records' = [] := by simpa [eq_comm] using hlast
    exact .nil
  · have hne' : records' ≠ [] := by
      rintro rfl
      exact hne (by simpa using hlast)
    exact commits hsame hlink h h' hne hne' (by rw [head, head, hlast])

end Paic.Chain
