import Paic.Evaluation.Sample
import Paic.WebReadiness.Bundle

/-!
# Which bundles are safe to publish

What the sanitiser returns holds no secret and no path, and is returned again.
The validator calls it and drops what it returns: a bundle that it accepts is
what the sanitiser makes of it only when no field was to be left out.
-/

namespace Paic.WebReadiness

open Checks (bind_eq_ok raiseIf_ok need_ok pure_eq_ok)
open Evaluation (CaseText CaseLaws sameLetter)
open Tools (Pydantic)

section
variable [CaseText]

-- ---------------------------------------------------------------------------
-- Names of fields
-- ---------------------------------------------------------------------------

/-- A match in ASCII. -/
def inPatternAscii (p c : Char) : Bool := if p.isLower then c.toLower == p else p == c

def secretKeyAscii (key : String) : Bool :=
  key.toList.tails.any fun rest =>
    secretTerms.any fun term => Replace.begins inPatternAscii term.toList rest

theorem begins_ascii [CaseLaws] {text : List Char} (h : ∀ c ∈ text, c.toNat < 128)
    (term : List Char) :
    Replace.begins inPattern term text = Replace.begins inPatternAscii term text := by
  induction term generalizing text with
  | nil => rw [Replace.begins, Replace.begins]
  | cons p term ih =>
    cases text with
    | nil => rfl
    | cons c text =>
      obtain ⟨hc, hrest⟩ := List.forall_mem_cons.mp h
      rw [Replace.begins, Replace.begins, ih hrest]
      have hsame : inPattern p c = inPatternAscii p c := by
        rw [inPattern, inPatternAscii]
        split
        case isTrue hlower =>
          rw [Bool.eq_iff_iff, CaseLaws.sameLetter_ascii p c hlower hc, beq_iff_eq]
        case isFalse => rfl
      rw [hsame]

theorem secretKey_ascii [CaseLaws] {key : String} (h : ∀ c ∈ key.toList, c.toNat < 128) :
    secretKey key = secretKeyAscii key := by
  rw [secretKey, secretKeyAscii, Bool.eq_iff_iff, List.any_eq_true, List.any_eq_true]
  refine exists_congr fun rest => and_congr_right fun hrest => ?_
  have hascii : ∀ c ∈ rest, c.toNat < 128 := fun c hc =>
    h c ((List.mem_tails _ _ |>.mp hrest).subset hc)
  simp only [begins_ascii hascii]

/-- No field of the models sounds like a secret. -/
theorem table_names [CaseLaws] : ∀ field ∈ webBundle ++ publicFile, secretKey field.name = false := by
  have hnames : ∀ field ∈ webBundle ++ publicFile, (∀ c ∈ field.name.toList, c.toNat < 128) ∧
      secretKeyAscii field.name = false := by decide +kernel
  exact fun field hfield =>
    (secretKey_ascii (hnames field hfield).1).trans (hnames field hfield).2

omit [CaseText] in
theorem table_defaults : ∀ field ∈ webBundle ++ publicFile, ∀ value ∈ field.default,
    value = .obj [] ∨ value = .null := by decide

-- ---------------------------------------------------------------------------
-- What validation keeps
-- ---------------------------------------------------------------------------

theorem secretFreeFields_iff {fields : List (String × Json)} : secretFreeFields fields = true ↔
    ∀ field ∈ fields, secretKey field.1 = false ∧ secretFree field.2 = true := by
  induction fields with
  | nil => exact iff_of_true rfl nofun
  | cons field fields ih =>
    rw [secretFreeFields, Bool.and_eq_true, Bool.and_eq_true, Bool.not_eq_true', ih,
      List.forall_mem_cons]

theorem secretFreeItems_iff {items : List Json} : secretFreeItems items = true ↔
    ∀ item ∈ items, secretFree item = true := by
  induction items with
  | nil => exact iff_of_true rfl nofun
  | cons item items ih => rw [secretFreeItems, Bool.and_eq_true, ih, List.forall_mem_cons]

/-- Validation neither brings secrets in nor takes them out. -/
def KeepsSecrets (validate : Json → Except Error Json) : Prop :=
  ∀ value out, value.unique = true → validate value = .ok out →
    (secretFree out = true ↔ secretFree value = true)

omit [CaseText] in
theorem uniqueFields_iff {fields : List (String × Json)} : Json.uniqueFields fields = true ↔
    ∀ field ∈ fields, field.2.unique = true := by
  induction fields with
  | nil => exact iff_of_true rfl nofun
  | cons field fields ih => rw [Json.uniqueFields, Bool.and_eq_true, ih, List.forall_mem_cons]

omit [CaseText] in
theorem uniqueItems_iff {items : List Json} : Json.uniqueItems items = true ↔
    ∀ item ∈ items, item.unique = true := by
  induction items with
  | nil => exact iff_of_true rfl nofun
  | cons item items ih => rw [Json.uniqueItems, Bool.and_eq_true, ih, List.forall_mem_cons]

omit [CaseText] in
/-- A field is read from the value, or is its default. -/
theorem readField_ok {validate : τ → Json → Except Error Json} {field : Field τ}
    {out : String × Json} (h : readField validate fields field = .ok out) : out.1 = field.name ∧
      ((∃ item, fields.lookup field.name = some item ∧ validate field.type item = .ok out.2) ∨
        fields.lookup field.name = none ∧ field.default = some out.2) := by
  unfold readField at h
  split at h
  · next found hlookup =>
    obtain ⟨item, hitem, h⟩ := bind_eq_ok.mp h
    obtain rfl := pure_eq_ok.mp h
    exact ⟨rfl, .inl ⟨found, hlookup, hitem⟩⟩
  · next hlookup =>
    obtain ⟨item, hitem, h⟩ := bind_eq_ok.mp h
    obtain rfl := pure_eq_ok.mp h
    exact ⟨rfl, .inr ⟨hlookup, need_ok.mp hitem⟩⟩

theorem validateModel_keeps {validate : τ → Json → Except Error Json} {table : List (Field τ)}
    (hnames : ∀ field ∈ table, secretKey field.name = false)
    (hdefaults : ∀ field ∈ table, ∀ value ∈ field.default, secretFree value = true)
    (hvalidate : ∀ type, KeepsSecrets (validate type)) :
    KeepsSecrets (validateModel validate table) := by
  intro value out hunique h
  rw [validateModel.eq_def] at h
  cases value with
  | obj fields =>
    rw [Json.unique, Bool.and_eq_true, decide_eq_true_iff, uniqueFields_iff] at hunique
    obtain ⟨hnodup, hunique⟩ := hunique
    obtain ⟨_, hknown, h⟩ := bind_eq_ok.mp h
    obtain ⟨read, hread, h⟩ := bind_eq_ok.mp h
    obtain rfl := pure_eq_ok.mp h
    rw [secretFree, secretFree, secretFreeFields_iff, secretFreeFields_iff]
    constructor
    · intro hout field hfield
      have hname : field.1 ∈ table.map Field.name := by
        by_contra hnot
        exact raiseIf_ok.mp hknown ⟨field, hfield, hnot⟩
      obtain ⟨entry, hentry, hsame⟩ := List.mem_map.mp hname
      have hlookup : fields.lookup entry.name = some field.2 :=
        hsame ▸ Entries.lookup_of_mem hnodup hfield
      refine ⟨hsame ▸ hnames entry hentry, ?_⟩
      obtain ⟨item, hitem⟩ := Checks.mapM_returns.mp ⟨read, hread⟩ entry hentry
      have hmem : item ∈ read := (Checks.mapM_mem hread).mpr ⟨entry, hentry, hitem⟩
      obtain ⟨-, ⟨found, hfound, hvalid⟩ | ⟨hnone, -⟩⟩ := readField_ok hitem
      · obtain rfl := Option.some.inj (hlookup.symm.trans hfound)
        exact (hvalidate _ field.2 item.2 (hunique field hfield) hvalid).mp (hout item hmem).2
      · exact absurd (hlookup.symm.trans hnone) nofun
    · intro hfields item hitem
      obtain ⟨entry, hentry, hitem⟩ := (Checks.mapM_mem hread).mp hitem
      obtain ⟨hname, ⟨found, hfound, hvalid⟩ | ⟨-, hdefault⟩⟩ := readField_ok hitem
      · have hmem := Entries.mem_of_lookup hfound
        refine ⟨hname ▸ hnames entry hentry, ?_⟩
        exact (hvalidate _ found item.2 (hunique _ hmem) hvalid).mpr (hfields _ hmem).2
      · exact ⟨hname ▸ hnames entry hentry, hdefaults entry hentry _ hdefault⟩
  | _ => exact absurd h nofun

section
variable [CaseLaws] [Pydantic]

omit [CaseLaws] in
theorem validatePlain_keeps (type : FieldType) : KeepsSecrets (validatePlain type) := by
  intro value out _ h
  unfold validatePlain at h
  split at h
  case h_1 | h_3 =>
    obtain ⟨_, -, h⟩ := bind_eq_ok.mp h
    obtain rfl := pure_eq_ok.mp h
    exact iff_of_true rfl rfl
  case h_2 => exact Except.ok.inj h ▸ Iff.rfl
  case h_6 hobj harr =>
    obtain ⟨size, -, h⟩ := bind_eq_ok.mp h
    obtain ⟨_, -, h⟩ := bind_eq_ok.mp h
    obtain rfl := pure_eq_ok.mp h
    cases value with
    | obj fields => exact absurd rfl (hobj fields)
    | arr items => exact absurd rfl (harr items)
    | _ => exact iff_of_true rfl rfl
  case h_7 | h_8 => exact Except.ok.inj h ▸ Iff.rfl
  case h_9 =>
    obtain ⟨_, -, h⟩ := bind_eq_ok.mp h
    exact pure_eq_ok.mp h ▸ Iff.rfl
  all_goals exact absurd h nofun

theorem publicFile_keeps : KeepsSecrets (validateModel validatePlain publicFile) := by
  refine validateModel_keeps (fun field hfield => ?_) (fun field hfield value hvalue => ?_)
    validatePlain_keeps
  · exact table_names field (List.mem_append_right _ hfield)
  · rcases table_defaults field (List.mem_append_right _ hfield) value hvalue with rfl | rfl <;> rfl

theorem validateField_keeps (type : FieldType) : KeepsSecrets (validateField type) := by
  intro value out hunique h
  unfold validateField at h
  split at h
  case h_1 items =>
    obtain ⟨files, hfiles, h⟩ := bind_eq_ok.mp h
    obtain rfl := pure_eq_ok.mp h
    rw [Json.unique, uniqueItems_iff] at hunique
    rw [secretFree, secretFree, secretFreeItems_iff, secretFreeItems_iff]
    constructor
    · intro hout item hitem
      obtain ⟨file, hfile⟩ := Checks.mapM_returns.mp ⟨files, hfiles⟩ item hitem
      have hmem : file ∈ files := (Checks.mapM_mem hfiles).mpr ⟨item, hitem, hfile⟩
      exact (publicFile_keeps item file (hunique item hitem) hfile).mp (hout file hmem)
    · intro hitems file hfile
      obtain ⟨item, hitem, hfile⟩ := (Checks.mapM_mem hfiles).mp hfile
      exact (publicFile_keeps item file (hunique item hitem) hfile).mpr (hitems item hitem)
  case h_2 => exact validatePlain_keeps _ value out hunique h

theorem modelValidate_keeps : KeepsSecrets WebBundle.modelValidate := by
  refine validateModel_keeps (fun field hfield => ?_) (fun field hfield value hvalue => ?_)
    validateField_keeps
  · exact table_names field (List.mem_append_left _ hfield)
  · rcases table_defaults field (List.mem_append_left _ hfield) value hvalue with rfl | rfl <;> rfl

-- ---------------------------------------------------------------------------
-- The validator
-- ---------------------------------------------------------------------------

/-- The JSON of the bundle in a directory. -/
def bundlePayload [PublicText T] (bundleDir : BundleDir T) : Option Json :=
  bundleDir.directory.bind fun directory =>
    match directory.entries.lookup bundleFile with
    | some (.file text) => PublicText.loads text
    | _ => none

/-- No field of the bundle in a directory sounds like a secret. -/
def SecretFree [PublicText T] (bundleDir : BundleDir T) : Prop :=
  ∀ payload ∈ bundlePayload bundleDir, secretFree payload = true

omit [CaseText] [CaseLaws] [Pydantic] in
theorem regular_ok {directory : Remediation.Directory T}
    (h : regular directory name context = .ok text) :
    directory.entries.lookup name = some (.file text) := by
  unfold regular at h
  split at h
  · next hlookup => exact Except.ok.inj h ▸ hlookup
  · exact absurd h nofun
  · exact absurd h nofun

omit [CaseLaws] in
/-- What the validator accepts was validated and passed the sanitiser. -/
theorem validateBundle_ok {T : Type} [PublicText T] {bundleDir : BundleDir T}
    (h : validateBundle bundleDir = .ok bundle) : ∃ payload safe,
      bundlePayload bundleDir = some payload ∧ payload.unique = true ∧
      WebBundle.modelValidate payload = .ok bundle ∧ safePublic "bundle" bundle = .ok safe := by
  obtain ⟨_, -, h⟩ := bind_eq_ok.mp h
  obtain ⟨directory, hdirectory, h⟩ := bind_eq_ok.mp h
  obtain ⟨_, -, h⟩ := bind_eq_ok.mp h
  obtain ⟨bundleText, hbundleText, h⟩ := bind_eq_ok.mp h
  obtain ⟨manifestText, -, h⟩ := bind_eq_ok.mp h
  obtain ⟨checksumText, -, h⟩ := bind_eq_ok.mp h
  obtain ⟨checksums, -, h⟩ := bind_eq_ok.mp h
  obtain ⟨_, -, h⟩ := bind_eq_ok.mp h
  obtain ⟨payload, hpayload, h⟩ := bind_eq_ok.mp h
  obtain ⟨validated, hvalidated, h⟩ := bind_eq_ok.mp h
  obtain ⟨safe, hsafe, h⟩ := bind_eq_ok.mp h
  obtain ⟨manifest, -, h⟩ := bind_eq_ok.mp h
  have hloads : PublicText.loads bundleText = some payload := need_ok.mp hpayload
  have hvalidated' : validated = bundle := by
    split at h
    · obtain ⟨_, -, h⟩ := bind_eq_ok.mp h
      exact pure_eq_ok.mp h
    · exact absurd h nofun
  subst hvalidated'
  refine ⟨payload, safe, ?_, PublicText.loads_unique _ _ hloads, hvalidated, hsafe⟩
  rw [bundlePayload, need_ok.mp hdirectory, Option.bind_some, regular_ok hbundleText]
  exact hloads

/-- The sanitiser returns what is clean, and returns that again. A bundle that
the validator accepts is what the sanitiser makes of it if and only if no field
in it sounds like a secret. -/
theorem public_bundle_safe :
    (∀ value context out, safePublic context value = .ok out →
      secretFree out = true ∧ pathFree out = true ∧
        ∀ context', safePublic context' out = .ok out) ∧
    ∀ {T : Type} [PublicText T] (bundleDir : BundleDir T) (bundle : Json),
      validateBundle bundleDir = .ok bundle →
        (safePublic "bundle" bundle = .ok bundle ↔ SecretFree bundleDir) := by
  constructor
  · intro value context out h
    obtain ⟨hs, hp⟩ := safePublic_clean context value out h
    exact ⟨hs, hp, fun context' => safePublic_of_clean context' out hs hp⟩
  · intro T _ bundleDir bundle h
    obtain ⟨payload, safe, hpayload, hunique, hvalidated, hsafe⟩ := validateBundle_ok h
    rw [safePublic_self_iff hsafe, modelValidate_keeps payload bundle hunique hvalidated, SecretFree,
      hpayload]
    simp only [Option.mem_some_iff, forall_eq']

end

end

namespace Sample

inductive Text where
  | bundle (lifecycle : String)
  | manifest
  | checksums
  deriving DecidableEq

/-- A bundle with one field in its lifecycle. -/
def payload (lifecycle : String) : Json :=
  .obj [("schema_version", .str "1.0"), ("bundle_kind", .str "paic-public-demo"),
    ("disclaimer", .str "Synthetic"), ("workspace_id", .str "demo"), ("display_name", .str "Demo"),
    ("source_bindings", .obj []), ("lifecycle", .obj [(lifecycle, .str "value")]),
    ("detection", .obj []), ("operations", .obj []), ("investigation", .obj []),
    ("impact", .obj []), ("remediation", .obj []), ("recovery", .obj []), ("evaluation", .obj []),
    ("presentation", .obj []), ("source_commit", .null), ("stages", .arr []), ("files", .arr [])]

def hexOf (c : Char) : String := String.ofList (List.replicate 64 c)

instance : PublicText Text where
  sha256
    | .bundle _ => hexOf '1'
    | .manifest => hexOf '2'
    | .checksums => hexOf '3'
  splitlines
    | .checksums => some [hexOf '1' ++ "  bundle.json", hexOf '2' ++ "  manifest.json"]
    | _ => none
  loads
    | .bundle lifecycle => some (payload lifecycle)
    | .manifest => some (.obj [("bundle_sha256", .str (hexOf '1'))])
    | .checksums => none
  loads_unique t j h := by
    cases t with
    | bundle lifecycle =>
      obtain rfl := Option.some.inj h
      rfl
    | manifest =>
      obtain rfl := Option.some.inj h
      rfl
    | checksums => exact absurd h nofun

def bundleDir (lifecycle : String) : BundleDir Text :=
  { directory := some ⟨[("bundle.json", .file (.bundle lifecycle)), ("manifest.json", .file .manifest),
      ("SHA256SUMS", .file .checksums)],
      (by decide : ["bundle.json", "manifest.json", "SHA256SUMS"].Nodup)⟩
    symlink := false }

/-- The validator accepts a bundle with a field for a token, which the sanitiser
would leave out. -/
theorem token_is_accepted :
    validateBundle (bundleDir "api_token") = .ok (payload "api_token") ∧
      safePublic "bundle" (payload "api_token") ≠ .ok (payload "api_token") := by
  constructor
  · decide +kernel
  · decide +kernel

theorem public_bundle_safe_sample :
    safePublic "bundle" (payload "phase") = .ok (payload "phase") := by
  have hvalid : validateBundle (bundleDir "phase") = .ok (payload "phase") := by decide +kernel
  refine (public_bundle_safe.2 (bundleDir "phase") (payload "phase") hvalid).mpr ?_
  intro found hfound
  obtain rfl : payload "phase" = found := Option.some.inj hfound
  decide +kernel

end Sample

end Paic.WebReadiness
