import Paic.JsonObjects
import Paic.Lib.Chain
import Paic.Lib.Lines
import Paic.Tools.Ledger

/-!
# The audit ledger as a chain

A file that `validate` accepts holds records of which each is sound by
itself, and which together are a hash chain without a hash that comes twice.
-/

namespace Paic.Tools

open Checks (bind_eq_ok pure_eq_ok raiseIf_ok loop loop_nil loop_cons)
open Chain (Chained head)

/-- What `json.dumps` and `json.loads` promise each other. -/
class JsonLaws [Hashing] [JsonText] : Prop where
  loads_unique : ∀ {s j}, loads s = .ok j → j.unique = true
  loads_canonical : ∀ {j}, j.unique = true → loads (canonical j) = .ok j.sorted
  canonical_sorted : ∀ j, canonical j.sorted = canonical j
  canonical_line : ∀ j, Lines.OneLine (canonical j).toList

namespace AuditLedger

abbrev Record := List (String × Json)

/-- `record["record_sha256"]`, for a record that has one. -/
def hashOf (record : Record) : String :=
  match get record "record_sha256" with
  | .str sha256 => sha256
  | _ => ""

/-- What a record's own hash is of. -/
def unsigned (record : Record) : Json := .obj (record.filter (·.1 ≠ "record_sha256"))

/-- The record fits in its place. -/
def Link (n : Nat) (previous : String) (record : Record) : Prop :=
  Equal (get record "sequence") (.int n) ∧
    Equal (get record "previous_record_sha256") (.str previous)

theorem suppliedHash_ok : suppliedHash seen record = .ok supplied ↔
    record.lookup "record_sha256" = some (.str supplied) ∧ supplied ∉ seen := by
  unfold suppliedHash get
  cases hlookup : record.lookup "record_sha256" with
  | none => simp
  | some value =>
    cases value with
    | str sha256 =>
      simp only [Option.getD_some, Option.some.injEq, Json.str.injEq]
      split
      · next hseen =>
        refine ⟨fun h => absurd h nofun, ?_⟩
        rintro ⟨rfl, hnot⟩
        exact absurd hseen hnot
      · next hnot =>
        constructor
        · intro h
          obtain rfl := Except.ok.inj h
          exact ⟨rfl, hnot⟩
        · rintro ⟨rfl, -⟩
          rfl
    | _ => simp

theorem receiptOf_ok : receiptOf record = .ok fields ↔
    get record "response_receipt" = .obj fields := by
  unfold receiptOf
  cases get record "response_receipt" <;> simp

section
variable [Hashing]

/-- The record's hashes are those of what it says. -/
structure Sound (record : Record) : Prop where
  hashed : record.lookup "record_sha256" = some (.str (digest (unsigned record)))
  request : Equal (get record "request_sha256") (.str (digest (get record "request")))
  receipt : Equal (get record "response_receipt_sha256")
    (.str (digest (get record "response_receipt")))
  result : ∃ fields, get record "response_receipt" = .obj fields ∧
    Equal (get record "result_sha256") (get fields "result_sha256")

theorem Sound.hashOf_eq (h : Sound record) : hashOf record = digest (unsigned record) := by
  simp [hashOf, get, h.hashed]

variable [JsonText]

/-- The records of the lines. -/
def Parsed (lines : List String) (records : List Record) : Prop :=
  List.Forall₂ (fun line record => loads line = .ok (.obj record)) lines records

/-- The ledger holds these records, and they are in order. -/
structure Valid (ledger : AuditLedger) (records : List Record) : Prop where
  regular : ledger.regular = true
  parsed : Parsed ledger.readLines records
  sound : ∀ r ∈ records, Sound r
  chained : Chained Link hashOf 1 zeroHash records
  distinct : (records.map hashOf).Nodup

omit [Hashing] in
theorem Parsed.unique {lines : List String} {records records' : List Record} (h : Parsed lines records) (h' : Parsed lines records') :
    records = records' := by
  induction h generalizing records' with
  | nil => exact (List.forall₂_nil_left_iff.mp h').symm
  | cons hline _ ih =>
    obtain ⟨record', rest', hline', hrest', rfl⟩ := List.forall₂_cons_left_iff.mp h'
    have := Json.obj.inj (Except.ok.inj (hline.symm.trans hline'))
    rw [this, ih hrest']

omit [Hashing] in
theorem loadRecord_ok : loadRecord line = .ok record ↔ loads line = .ok (.obj record) := by
  unfold loadRecord
  cases loads line with
  | error e => cases e <;> simp
  | ok j => cases j <;> simp

omit [Hashing] in
theorem parsed_snoc {lines : List String} {records : List Record} {record : Record} :
    Parsed lines (records ++ [record]) ↔ ∃ init line, lines = init ++ [line] ∧
      Parsed init records ∧ loads line = .ok (.obj record) := by
  constructor
  · intro h
    induction records generalizing lines with
    | nil =>
      obtain ⟨line, rest, hline, hrest, rfl⟩ := List.forall₂_cons_right_iff.mp h
      obtain rfl := List.forall₂_nil_right_iff.mp hrest
      exact ⟨[], line, rfl, .nil, hline⟩
    | cons r rs ih =>
      obtain ⟨line, rest, hline, hrest, rfl⟩ := List.forall₂_cons_right_iff.mp h
      obtain ⟨init, last, rfl, hinit, hlast⟩ := ih hrest
      exact ⟨line :: init, last, rfl, .cons hline hinit, hlast⟩
  · rintro ⟨init, line, rfl, hinit, hline⟩
    exact List.rel_append hinit (.cons hline .nil)

theorem checkLine_iff {walk walk' : Walk} : checkLine walk line = .ok walk' ↔
    ∃ record, loads line = .ok (.obj record) ∧ Sound record ∧ hashOf record ∉ walk.seen ∧
      Link walk.expected walk.previous record ∧
      walk' = ⟨walk.expected + 1, hashOf record, walk.seen ++ [hashOf record]⟩ := by
  simp only [checkLine, bind_eq_ok, raiseIf_ok, pure_eq_ok, exists_and_left, exists_const,
    loadRecord_ok, suppliedHash_ok, receiptOf_ok, not_or, Decidable.not_not]
  refine exists_congr fun record => and_congr_right fun _ => ?_
  constructor
  · rintro ⟨supplied, ⟨hlookup, hnot⟩, hlink, hrequest, hreceipt, fields, hfields, hresult,
      hhash, rfl⟩
    have hof : hashOf record = supplied := by simp [hashOf, get, hlookup]
    exact ⟨⟨hhash ▸ hlookup, hrequest, hreceipt, fields, hfields, hresult⟩, hof ▸ hnot, hlink,
      by rw [hof]⟩
  · rintro ⟨hsound, hnot, hlink, rfl⟩
    obtain ⟨fields, hfields, hresult⟩ := hsound.result
    refine ⟨digest (unsigned record), ⟨hsound.hashed, hsound.hashOf_eq ▸ hnot⟩, hlink,
      hsound.request, hsound.receipt, fields, hfields, hresult, rfl, by rw [hsound.hashOf_eq]⟩

/-- The walk over the lines from where it stands. -/
theorem loop_checkLine {lines : List String} {walk walk' : Walk} (hseen : walk.seen.Nodup) :
    loop checkLine walk lines = .ok walk' ↔ ∃ records, Parsed lines records ∧
      (∀ r ∈ records, Sound r) ∧ Chained Link hashOf walk.expected walk.previous records ∧
      (walk.seen ++ records.map hashOf).Nodup ∧
      walk' = ⟨walk.expected + records.length, head hashOf walk.previous records,
        walk.seen ++ records.map hashOf⟩ := by
  induction lines generalizing walk with
  | nil =>
    constructor
    · intro h
      obtain rfl := Except.ok.inj h
      exact ⟨[], .nil, by simp, trivial, by simpa using hseen, by simp⟩
    · rintro ⟨records, hparsed, -, -, -, rfl⟩
      obtain rfl := List.forall₂_nil_left_iff.mp hparsed
      simp [loop_nil]
  | cons line rest ih =>
    rw [loop_cons]
    simp only [checkLine_iff]
    constructor
    · rintro ⟨_, ⟨record, hload, hsound, hnot, hlink, rfl⟩, hloop⟩
      have hnodup : (walk.seen ++ [hashOf record]).Nodup :=
        hseen.append (List.nodup_singleton _) (List.disjoint_singleton.mpr hnot)
      obtain ⟨records, hparsed, hsounds, hchained, hdistinct, rfl⟩ := (ih hnodup).mp hloop
      refine ⟨record :: records, .cons hload hparsed, ?_, ⟨hlink, hchained⟩, by simpa using hdistinct,
        ?_⟩
      · rintro r (_ | ⟨_, hr⟩)
        · exact hsound
        · exact hsounds r hr
      · rw [Chain.head_cons]
        simp [Nat.add_right_comm, Nat.add_assoc]
    · rintro ⟨records, hparsed, hsounds, hchained, hdistinct, rfl⟩
      obtain ⟨record, records, hload, hrest, rfl⟩ := List.forall₂_cons_left_iff.mp hparsed
      have hnodup : (walk.seen ++ [hashOf record] ++ records.map hashOf).Nodup := by
        simpa using hdistinct
      have hnodup' := (List.nodup_append.mp hnodup).1
      refine ⟨_, ⟨record, hload, hsounds record List.mem_cons_self, ?_, hchained.1, rfl⟩,
        (ih hnodup').mpr ⟨records, hrest, fun r hr => hsounds r (List.mem_cons_of_mem _ hr),
          hchained.2, hnodup, ?_⟩⟩
      · exact fun hmem => (List.nodup_append.mp hnodup').2.2 _ hmem _ List.mem_cons_self rfl
      · rw [Chain.head_cons]
        simp [Nat.add_right_comm, Nat.add_assoc]

/-- `validate` accepts exactly the valid ledgers. -/
theorem validate_iff {ledger : AuditLedger} {walk : Walk} : ledger.validate = .ok walk ↔
    ∃ records, Valid ledger records ∧
      walk = ⟨1 + records.length, head hashOf zeroHash records, records.map hashOf⟩ := by
  have hloop := @loop_checkLine _ _ ledger.readLines ⟨1, zeroHash, []⟩ walk List.nodup_nil
  simp only [validate, bind_eq_ok, ensureRegularFiles, raiseIf_ok, exists_const, hloop,
    Bool.not_eq_false, List.nil_append]
  constructor
  · rintro ⟨hregular, records, hparsed, hsound, hchained, hdistinct, rfl⟩
    exact ⟨records, ⟨hregular, hparsed, hsound, hchained, hdistinct⟩, rfl⟩
  · rintro ⟨records, ⟨hregular, hparsed, hsound, hchained, hdistinct⟩, rfl⟩
    exact ⟨hregular, records, hparsed, hsound, hchained, hdistinct, rfl⟩

theorem Valid.unique {ledger : AuditLedger} {records : List Record} [JsonLaws]
    (h : Valid ledger records) : ∀ r ∈ records, (Json.obj r).unique = true := by
  have hparsed := h.parsed
  intro r hr
  obtain ⟨i, hi, rfl⟩ := List.mem_iff_getElem.mp hr
  exact JsonLaws.loads_unique ((List.forall₂_iff_get.mp hparsed).2 i (hparsed.length_eq ▸ hi) hi)

end

end AuditLedger

end Paic.Tools
