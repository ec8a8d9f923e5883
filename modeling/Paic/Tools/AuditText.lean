import Paic.Tools.AuditChain

/-!
# Appending to the text of an audit ledger

The file as it is on disk: its lines are those of `splitlines`, and a record
is written behind whatever ends it. `append` takes any two dictionaries;
what the gateway hands to it are dumps of its models.
-/

namespace Paic.Tools

open Checks (bind_eq_ok pure_eq_ok raiseIf_ok need need_ok)
open Chain (Chained head chained_snoc)
open Lines (Ended OneLine textLines textLines_append textLines_append_unended ended_append)
open Json (sortedFields sortedItems lookup_sortedFields fields_unique keys_unique uniqueFields_iff
  filter_unique lookup_unique)

/-- `lower` and `\s` of ASCII text. -/
class UnicodeLaws [UnicodeText] : Prop where
  lower_ascii : ∀ s : String, (∀ c ∈ s.toList, c.toNat < 128) →
    (lower s).toList = s.toList.map Char.toLower
  isSpace_ascii : ∀ c : Char, c.toNat < 128 → isSpace c = (c.isWhitespace || c ∈ ['\x0b', '\x0c',
    '\x1c', '\x1d', '\x1e', '\x1f'])

-- ---------------------------------------------------------------------------
-- What `==` and redaction make of keys
-- ---------------------------------------------------------------------------

theorem plainFields_perm {fields fields' : List (String × Json)} (h : fields.Perm fields')
    (hkeys : (fields.map Prod.fst).Nodup) : plainFields fields = plainFields fields' :=
  Json.obj.inj (Equal.obj_perm h hkeys)

mutual
/-- `==` does not see the order of keys. -/
theorem plain_sorted : ∀ j : Json, j.unique = true → plain j.sorted = plain j
  | .null, _ | .bool _, _ | .int _, _ | .float _, _ | .str _, _ => rfl
  | .arr items, h => congrArg Json.arr (plainItems_sorted items h)
  | .obj fields, h => by
    simp only [Json.unique, Bool.and_eq_true, decide_eq_true_eq] at h
    have hkeys := (Json.sortedFields_keys fields).nodup_iff.mpr h.1
    refine congrArg Json.obj ?_
    rw [plainFields_perm (Json.sortedFields_perm fields) hkeys]
    exact plainFields_map fields h.2

theorem plainItems_sorted : ∀ items : List Json, Json.uniqueItems items = true →
    plainItems (sortedItems items) = plainItems items
  | [], _ => rfl
  | j :: rest, h => by
    simp only [Json.uniqueItems, Bool.and_eq_true] at h
    rw [sortedItems, plainItems, plain_sorted j h.1, plainItems_sorted rest h.2, plainItems]

theorem plainFields_map : ∀ fields : List (String × Json), Json.uniqueFields fields = true →
    plainFields (fields.map fun field => (field.1, field.2.sorted)) = plainFields fields
  | [], _ => rfl
  | (key, j) :: rest, h => by
    simp only [Json.uniqueFields, Bool.and_eq_true] at h
    rw [List.map_cons, plainFields, plain_sorted j h.1, plainFields_map rest h.2, plainFields]
end

theorem Equal.sorted (ha : a.unique = true) (hb : b.unique = true) :
    Equal a.sorted b.sorted ↔ Equal a b := by
  rw [Equal, Equal, plain_sorted a ha, plain_sorted b hb]

section
variable [UnicodeText]

theorem redactFields_keys (fields : List (String × Json)) :
    ((redactFields fields).map Prod.fst).Sublist (fields.map Prod.fst) := by
  induction fields with
  | nil => exact .slnil
  | cons field rest ih =>
    obtain ⟨key, j⟩ := field
    rw [redactFields]
    split
    · exact ih.trans (List.sublist_cons_self _ _)
    · split
      · exact ih.cons_cons _
      · exact ih.cons_cons _

mutual
theorem redact_unique : ∀ j : Json, j.unique = true → (redact j).unique = true
  | .null, _ | .bool _, _ | .int _, _ | .float _, _ | .str _, _ => rfl
  | .arr items, h => redactItems_unique items h
  | .obj fields, h => by
    simp only [Json.unique, Bool.and_eq_true, decide_eq_true_eq] at h
    rw [redact, Json.unique, Bool.and_eq_true, decide_eq_true_eq]
    exact ⟨h.1.sublist (redactFields_keys fields), redactFields_unique fields h.2⟩

theorem redactItems_unique : ∀ items : List Json, Json.uniqueItems items = true →
    Json.uniqueItems (redactItems items) = true
  | [], _ => rfl
  | j :: rest, h => by
    simp only [Json.uniqueItems, Bool.and_eq_true] at h
    simp only [redactItems, Json.uniqueItems, Bool.and_eq_true]
    exact ⟨redact_unique j h.1, redactItems_unique rest h.2⟩

theorem redactFields_unique : ∀ fields : List (String × Json), Json.uniqueFields fields = true →
    Json.uniqueFields (redactFields fields) = true
  | [], _ => rfl
  | (key, j) :: rest, h => by
    simp only [Json.uniqueFields, Bool.and_eq_true] at h
    rw [redactFields]
    split
    · exact redactFields_unique rest h.2
    · split
      · simp only [Json.uniqueFields, Bool.and_eq_true]
        exact ⟨rfl, redactFields_unique rest h.2⟩
      · simp only [Json.uniqueFields, Bool.and_eq_true]
        exact ⟨redact_unique j h.1, redactFields_unique rest h.2⟩
end

/-- A key that stays keeps its value, redacted. -/
theorem lookup_redactFields {fields : List (String × Json)} {key : String}
    (hpath : isPathKey key = false) (hsecret : isSecretKey key = false) :
    (redactFields fields).lookup key = (fields.lookup key).map redact := by
  induction fields with
  | nil => rfl
  | cons field rest ih =>
    obtain ⟨other, j⟩ := field
    rw [redactFields, List.lookup_cons]
    cases hkey : key == other with
    | true =>
      obtain rfl : key = other := by simpa using hkey
      simp [hpath, hsecret]
    | false =>
      split
      · exact ih
      · split
        · rw [List.lookup_cons, hkey]
          exact ih
        · rw [List.lookup_cons, hkey]
          exact ih

theorem resultKey_stays [UnicodeLaws] :
    isPathKey "result_sha256" = false ∧ isSecretKey "result_sha256" = false := by
  have hlower : lower "result_sha256" = "result_sha256" := by
    refine String.toList_inj.mp ((UnicodeLaws.lower_ascii _ ?_).trans ?_)
    · decide
    · decide
  simp only [isPathKey, isSecretKey, hlower]
  decide

end

-- ---------------------------------------------------------------------------
-- The file
-- ---------------------------------------------------------------------------

namespace AuditLedger

/-- The ledger whose file holds the text. -/
def ofText (text : String) : AuditLedger :=
  if Ended text.toList then ⟨.directory, true, textLines text, ""⟩
  else ⟨.directory, true, (textLines text).dropLast, (textLines text).getLast?.getD ""⟩

theorem readLines_ofText (text : String) : (ofText text).readLines = textLines text := by
  by_cases h : Ended text.toList
  · rw [ofText, if_pos h]
    simp [readLines]
  · have hline : OneLine "x".toList := ⟨by decide, by decide⟩
    obtain ⟨init, last, hlines, hlast, -⟩ := textLines_append_unended h hline
    rw [ofText, if_neg h]
    simp [readLines, hlines, hlast]

/-- A line written to the ledger is a line written behind the text. -/
theorem write_ofText (hline : OneLine line.toList) :
    (ofText text).write line = ofText (text ++ (line ++ "\n")) := by
  rw [ofText, ofText, if_pos (ended_append text line), write]
  by_cases h : Ended text.toList
  · rw [if_pos h, textLines_append h hline]
    simp
  · obtain ⟨init, last, hlines, hlast, happend⟩ := textLines_append_unended h hline
    rw [if_neg h, hlines, happend]
    simp

section
variable [Hashing] [JsonText] [UnicodeText]

/-- The record without its own hash. -/
def unsignedFields (sequence : Nat) (previous : String) (request response : Json)
    (result callId tool : Json) (policy : String) (sources : SourceHashes) : Record :=
  [("sequence", .int sequence), ("previous_record_sha256", .str previous),
    ("request", request), ("request_sha256", .str (digest request)),
    ("response_receipt", response), ("response_receipt_sha256", .str (digest response)),
    ("result_sha256", result), ("policy_outcome", .str policy),
    ("source_manifest_hashes", SourceHashes.modelDump (sortedSources sources)),
    ("call_id", callId), ("tool", tool)]

/-- `append`, of any request and response. Where it raises, nothing is written. -/
def appendDicts (ledger : AuditLedger) (request : Json) (response : Record) (policy : String)
    (sources : SourceHashes) : Except Error (Record × AuditLedger) := do
  let safeRequest := redact request
  let receipt := redact (.obj (response.filter (·.1 ≠ "result")))
  ledger.ensureRegularFiles
  let _ ← ledger.validate
  let records := ledger.readLines
  let previous ← previousHash records
  let result ← need (response.lookup "result_sha256") (.other "result_sha256")
  let callId ← need (response.lookup "call_id") (.other "call_id")
  let tool ← need (response.lookup "tool") (.other "tool")
  let fields := unsignedFields (records.length + 1) previous safeRequest receipt result callId tool
    policy sources
  let record := fields ++ [("record_sha256", .str (digest (.obj fields)))]
  pure (record, ledger.write (canonical (.obj record)))

/-- What the gateway appends is one case of it. -/
theorem append_eq_dicts (ledger : AuditLedger) (request : ToolRequest) (response : ToolResponse)
    (policy : PolicyOutcome) (sources : SourceHashes) :
    appendDicts ledger request.modelDump (("result", response.result) :: response.receipt)
        policy.text sources =
      (ledger.append request response policy sources).map fun r => match r.1.modelDump with
        | .obj fields => (fields, r.2)
        | _ => ([], r.2) := by
  have hreceipt : (("result", response.result) :: response.receipt).filter (·.1 ≠ "result") =
      response.receipt := by
    simp [ToolResponse.receipt]
  have hlookup : ∀ key value, response.receipt.lookup key = some value → key ≠ "result" →
      (("result", response.result) :: response.receipt).lookup key = some value := by
    intro key value h hne
    have : (key == "result") = false := by simpa using hne
    rw [List.lookup_cons, this]
    exact h
  simp only [appendDicts, append, hreceipt, hlookup "result_sha256" _ rfl (by decide),
    hlookup "call_id" _ rfl (by decide), hlookup "tool" _ rfl (by decide), need]
  cases ledger.ensureRegularFiles with
  | error e => rfl
  | ok _ =>
    cases ledger.validate with
    | error e => rfl
    | ok _ =>
      cases hprevious : previousHash ledger.readLines with
      | error e => simp [Except.map, bind, Except.bind]
      | ok previous =>
        simp only [bind, Except.bind, pure, Except.pure, Except.map]
        rfl

-- ---------------------------------------------------------------------------
-- The appended record
-- ---------------------------------------------------------------------------

omit [UnicodeText] in
theorem Valid.previousHash {ledger : AuditLedger} {records : List Record}
    (h : Valid ledger records) :
    previousHash ledger.readLines = .ok (head hashOf zeroHash records) := by
  have hparsed := h.parsed
  have hsound := h.sound
  unfold Tools.previousHash
  rcases List.eq_nil_or_concat records with rfl | ⟨init, record, rfl⟩
  · rw [List.forall₂_nil_right_iff.mp hparsed]
    rfl
  · rw [List.concat_eq_append] at hparsed hsound ⊢
    obtain ⟨init', line, hlines, -, hline⟩ := parsed_snoc.mp hparsed
    have hlookup := (hsound record (by simp)).hashed
    have hhash : hashOf record = digest (unsigned record) := (hsound record (by simp)).hashOf_eq
    simp [hlines, hline, hlookup, Chain.head_snoc, hhash]

theorem appendDicts_ok {ledger ledger' : AuditLedger} {records : List Record}
    (h : Valid ledger records) :
    appendDicts ledger request response policy sources = .ok (record, ledger') ↔
      ∃ result callId tool, response.lookup "result_sha256" = some result ∧
        response.lookup "call_id" = some callId ∧ response.lookup "tool" = some tool ∧
        let fields := unsignedFields (records.length + 1) (head hashOf zeroHash records)
          (redact request) (redact (.obj (response.filter (·.1 ≠ "result")))) result callId tool
          policy sources
        record = fields ++ [("record_sha256", .str (digest (.obj fields)))] ∧
          ledger' = ledger.write (canonical (.obj record)) := by
  have hvalidate := validate_iff.mpr ⟨records, h, rfl⟩
  have hregular : ledger.ensureRegularFiles = .ok () :=
    Checks.raiseIf_neg (by simp [h.regular])
  simp only [appendDicts, hregular, hvalidate, h.previousHash, h.parsed.length_eq, bind_eq_ok,
    need_ok, pure_eq_ok, Prod.mk.injEq, Except.ok.injEq, exists_eq_left', exists_const,
    exists_and_left, true_and]
  refine exists_congr fun result => and_congr_right fun _ => exists_congr fun callId =>
    and_congr_right fun _ => exists_congr fun tool => and_congr_right fun _ => ?_
  rw [eq_comm, and_congr_right_iff]
  rintro rfl
  exact eq_comm

end

theorem get_sortedFields {record : Record} (hkeys : (record.map Prod.fst).Nodup) (key : String) :
    get (sortedFields record) key = (get record key).sorted := by
  rw [get, get, lookup_sortedFields hkeys]
  cases record.lookup key <;> rfl

theorem eq_int_of_sorted {j : Json} {n : Int} (h : j.sorted = .int n) : j = .int n := by
  cases j <;> simp_all [Json.sorted]

section
variable [Hashing]

/-- What the fields of a new record are. -/
structure Appended (n : Nat) (prior : String) (req receipt value : Json) (record : Record) :
    Prop where
  keys : (record.map Prod.fst).Nodup
  own : ∃ fields, record.lookup "record_sha256" = some (.str (digest (.obj fields))) ∧
    record.filter (·.1 ≠ "record_sha256") = fields
  sequence : get record "sequence" = .int n
  previous : get record "previous_record_sha256" = .str prior
  request : get record "request" = req
  requestHash : get record "request_sha256" = .str (digest req)
  response : get record "response_receipt" = receipt
  responseHash : get record "response_receipt_sha256" = .str (digest receipt)
  result : get record "result_sha256" = value

theorem unsignedFields_appended (n : Nat) (prior : String) (req receipt value callId tool : Json)
    (policy : String) (sources : SourceHashes) :
    let fields := unsignedFields n prior req receipt value callId tool policy sources
    Appended n prior req receipt value
      (fields ++ [("record_sha256", .str (digest (.obj fields)))]) := by
  intro fields
  have hkeys : ["sequence", "previous_record_sha256", "request", "request_sha256",
      "response_receipt", "response_receipt_sha256", "result_sha256", "policy_outcome",
      "source_manifest_hashes", "call_id", "tool", "record_sha256"].Nodup := by decide
  exact ⟨hkeys, ⟨fields, rfl, by simp [fields, unsignedFields]⟩, rfl, rfl, rfl, rfl, rfl, rfl, rfl⟩

omit [Hashing] in
theorem sources_unique {sources : SourceHashes} (h : (sources.map Prod.fst).Nodup) :
    (SourceHashes.modelDump (sortedSources sources)).unique = true := by
  have hperm : (sortedSources sources).Perm sources := List.perm_insertionSort _ _
  rw [SourceHashes.modelDump, Json.unique, Bool.and_eq_true, decide_eq_true_eq, List.map_map]
  refine ⟨(hperm.map Prod.fst).nodup_iff.mpr h, uniqueFields_iff.mpr fun field hf => ?_⟩
  obtain ⟨source, -, rfl⟩ := List.mem_map.mp hf
  rfl

theorem unsignedFields_unique (hreq : Json.unique req = true) (hreceipt : Json.unique receipt = true)
    (hvalue : Json.unique value = true) (hcallId : Json.unique callId = true)
    (htool : Json.unique tool = true) (hsources : (sources.map Prod.fst).Nodup) :
    Json.uniqueFields (unsignedFields n prior req receipt value callId tool policy sources ++
      [("record_sha256", .str own)]) = true := by
  simp [unsignedFields, Json.uniqueFields, Json.unique, hreq, hreceipt, hvalue, hcallId, htool,
    sources_unique hsources]

/-- What the record's own hash is of does not change when its keys are sorted. -/
theorem Appended.unsigned_eq (h : Appended n prior req receipt value record) :
    unsigned (sortedFields record) = (unsigned record).sorted :=
  congrArg Json.obj (Json.sortedFields_filter h.keys (· ≠ "record_sha256"))

theorem Appended.link (h : Appended n prior req receipt value record) :
    Link n prior (sortedFields record) := by
  have hget := get_sortedFields h.keys
  rw [Link, hget, hget, h.sequence, h.previous]
  exact ⟨.refl _, .refl _⟩

variable [JsonText] [JsonLaws]

theorem digest_sorted (j : Json) : digest j.sorted = digest j := by
  rw [digest, digest, JsonLaws.canonical_sorted]

/-- The record is sound when redaction has left the hash of its result alone. -/
theorem Appended.sound_iff (h : Appended n prior req (.obj receipt) value record) :
    Sound (sortedFields record) ↔ Equal value.sorted (get (sortedFields receipt) "result_sha256") := by
  have hget := get_sortedFields h.keys
  have hreceipt : get (sortedFields record) "response_receipt" = .obj (sortedFields receipt) := by
    rw [hget, h.response]
    rfl
  constructor
  · intro hs
    obtain ⟨fields, hfields, hresult⟩ := hs.result
    obtain rfl := Json.obj.inj (hfields.symm.trans hreceipt)
    rwa [hget, h.result] at hresult
  · intro hequal
    obtain ⟨fields, hlookup, hrest⟩ := h.own
    refine ⟨?_, ?_, ?_, sortedFields receipt, hreceipt, by rwa [hget, h.result]⟩
    · rw [h.unsigned_eq, digest_sorted, unsigned, hrest, lookup_sortedFields h.keys, hlookup]
      rfl
    · rw [hget, hget, h.requestHash, h.request, digest_sorted]
      exact .refl _
    · rw [hget, hget, h.responseHash, h.response, digest_sorted]
      exact .refl _

/-- A record of another number has another hash. -/
theorem Appended.fresh {records : List Record} (h : Appended (1 + records.length) prior req receipt value record)
    (hsound : ∀ r ∈ records, Sound r) (hchained : Chained Link hashOf 1 zeroHash records)
    (hunique : ∀ r ∈ records, (r.map Prod.fst).Nodup) (hs : Sound (sortedFields record))
    (hfree : CollisionFree (unsigned record :: records.map unsigned)) :
    hashOf (sortedFields record) ∉ records.map hashOf := by
  intro hmem
  obtain ⟨r, hr, hhash⟩ := List.mem_map.mp hmem
  rw [(hsound r hr).hashOf_eq, hs.hashOf_eq, h.unsigned_eq, digest_sorted] at hhash
  have hsame := hfree _ (List.mem_cons_of_mem _ (List.mem_map.mpr ⟨r, hr, rfl⟩)) _
    List.mem_cons_self hhash
  obtain ⟨i, hi, rfl⟩ := List.mem_iff_getElem.mp hr
  obtain ⟨previous, hlink⟩ := Chain.chained_get hchained i hi
  -- the two agree on the number, as they do on every field but the hash
  have hfilter : ∀ {fields : Record}, (fields.map Prod.fst).Nodup →
      get (sortedFields (fields.filter (·.1 ≠ "record_sha256"))) "sequence" =
        (get fields "sequence").sorted := by
    intro fields hkeys
    rw [← Json.sortedFields_filter hkeys (· ≠ "record_sha256"), ← get_sortedFields hkeys, get, get]
    congr 1
    exact Entries.lookup_without (l := sortedFields fields) (by decide)
  have hnumber : (get records[i] "sequence").sorted = .int (1 + records.length : Nat) := by
    rw [← hfilter (hunique _ hr), Json.obj.inj hsame, hfilter h.keys, h.sequence]
    rfl
  have hequal := hlink.1
  rw [eq_int_of_sorted hnumber, Equal, plain, plain, Json.float.injEq] at hequal
  have : 1 + records.length = 1 + i := by exact_mod_cast hequal
  omega

end

section
variable [Hashing] [JsonText] [UnicodeText] [JsonLaws]

/-- Behind a line that is not ended, no record is added. -/
theorem appendDicts_unended {records records' : List Record} (hended : ¬ Ended text.toList)
    (h : Valid (ofText text) records)
    (happend : appendDicts (ofText text) request response policy sources = .ok (record, ledger'))
    (h' : Valid ledger' records') : records'.length = records.length := by
  obtain ⟨result, callId, tool, -, -, -, -, rfl⟩ := (appendDicts_ok h).mp happend
  have hline := JsonLaws.canonical_line (.obj record)
  obtain ⟨init, last, hlines, -, happended⟩ := textLines_append_unended hended hline
  have hold := h.parsed.length_eq
  have hnew := h'.parsed.length_eq
  rw [write_ofText hline, readLines_ofText, happended] at hnew
  rw [readLines_ofText, hlines] at hold
  rw [← hnew, ← hold, List.length_append, List.length_append]
  rfl

variable [UnicodeLaws]

/-- Appending to a valid file keeps it valid, with the new record behind the
old ones, exactly when the file ended its last line and redaction leaves the
hash of the result alone. -/
theorem appendDicts_valid_iff {records : List Record} (h : Valid (ofText text) records)
    (happend : appendDicts (ofText text) request response policy sources = .ok (record, ledger'))
    (hrequest : request.unique = true) (hresponse : (Json.obj response).unique = true)
    (hsources : (sources.map Prod.fst).Nodup)
    (hfree : CollisionFree (unsigned record :: records.map unsigned)) :
    ledger' = ofText (text ++ (canonical (.obj record) ++ "\n")) ∧
      (Valid ledger' (records ++ [sortedFields record]) ↔ Ended text.toList ∧
        ∀ result, response.lookup "result_sha256" = some result →
          Equal result (redact result)) := by
  obtain ⟨result, callId, tool, hresult, hcallId, htool, hrecord, rfl⟩ :=
    (appendDicts_ok h).mp happend
  have hline := JsonLaws.canonical_line (.obj record)
  have happended := unsignedFields_appended (1 + records.length) (head hashOf zeroHash records)
    (redact request) (redact (.obj (response.filter (·.1 ≠ "result")))) result callId tool
    policy sources
  rw [Nat.add_comm 1] at happended
  dsimp only at hrecord happended
  rw [← hrecord] at happended
  rw [Nat.add_comm] at happended
  have hunique : (Json.obj record).unique = true := by
    rw [Json.unique, Bool.and_eq_true, decide_eq_true_eq]
    refine ⟨happended.keys, ?_⟩
    rw [hrecord]
    exact unsignedFields_unique (redact_unique _ hrequest)
      (redact_unique _ (filter_unique hresponse)) (lookup_unique (fields_unique hresponse) hresult)
      (lookup_unique (fields_unique hresponse) hcallId)
      (lookup_unique (fields_unique hresponse) htool) hsources
  have hsound : Sound (sortedFields record) ↔ Equal result (redact result) := by
    have hlookup : (response.filter (·.1 ≠ "result")).lookup "result_sha256" = some result :=
      (Entries.lookup_without (by decide)).trans hresult
    have hresultU := lookup_unique (fields_unique hresponse) hresult
    rw [redact] at happended
    rw [happended.sound_iff, get, lookup_sortedFields, lookup_redactFields resultKey_stays.1
      resultKey_stays.2, hlookup]
    · exact Equal.sorted hresultU (redact_unique _ hresultU)
    · exact (keys_unique (filter_unique hresponse)).sublist (redactFields_keys _)
  refine ⟨write_ofText hline, ?_⟩
  constructor
  · intro hvalid
    have hended : Ended text.toList := by
      by_contra hended
      have hlength := appendDicts_unended hended h happend hvalid
      rw [List.length_append, List.length_singleton] at hlength
      omega
    refine ⟨hended, fun result' hresult' => ?_⟩
    obtain rfl := Option.some.inj (hresult.symm.trans hresult')
    exact hsound.mp (hvalid.sound _ (by simp))
  · rintro ⟨hended, hequal⟩
    have hs := hsound.mpr (hequal result hresult)
    have hlines : ((ofText text).write (canonical (.obj record))).readLines =
        (ofText text).readLines ++ [canonical (.obj record)] := by
      rw [write_ofText hline, readLines_ofText, textLines_append hended hline, readLines_ofText]
    refine ⟨?_, ?_, ?_, ?_, ?_⟩
    · exact h.regular
    · exact parsed_snoc.mpr ⟨_, _, hlines, h.parsed, JsonLaws.loads_canonical hunique⟩
    · intro r hr
      rcases List.mem_append.mp hr with hr | hr
      · exact h.sound r hr
      · exact List.mem_singleton.mp hr ▸ hs
    · exact chained_snoc.mpr ⟨h.chained, happended.link⟩
    · rw [List.map_append, List.map_singleton]
      refine h.distinct.append (List.nodup_singleton _) (List.disjoint_singleton.mpr ?_)
      exact happended.fresh h.sound h.chained (fun r hr => keys_unique (h.unique r hr)) hs
        hfree

end

end AuditLedger

end Paic.Tools
