import Paic.JsonCode
import Paic.Lib.Base64
import Paic.Remediation.Sample
import Mathlib

/-!
# Authorization tokens

`issue_token` signs the claims of an approved plan; `verify_token` reads them
back while the approval they were issued under still holds. The text of a token
is fixed by the bytes of its two segments.
-/

namespace Paic.Remediation

open Checks

-- ---------------------------------------------------------------------------
-- Issuing
-- ---------------------------------------------------------------------------

/-- What tokens take from `hmac` and `json`: the raw signature, the canonical
bytes of the claims, and the claims that a payload holds. -/
class TokenText where
  hmacDigest : Bytes → Bytes → Bytes
  dumpClaims : ApprovalTokenClaims → Bytes
  loadClaims : Bytes → Option ApprovalTokenClaims
  loadClaims_valid : loadClaims payload = some claims → claims.Valid
  loadClaims_dump : claims.Valid → loadClaims (dumpClaims claims) = some claims

/-- Tokens whose segments are base64 with the alphabet of URLs. -/
instance [TokenText] : TokenFormat where
  b64decode s := Base64.decodeUrl s.toList
  b64encode bytes := String.ofList (Base64.encodeUrl bytes)
  hmacDigest := TokenText.hmacDigest
  loadClaims := TokenText.loadClaims
  loadClaims_valid := TokenText.loadClaims_valid

/-- `min(plan.expires_at, at + timedelta(minutes=token_ttl_minutes))` -/
def tokenExpiry (plan : RemediationPlan) (config : RemediationConfig) (at_ : Datetime) : Datetime :=
  let limit := at_.addMinutes config.approval.tokenTtlMinutes
  if limit.instant < plan.expiresAt.instant then limit else plan.expiresAt

def issuedClaims (plan : RemediationPlan) (status : ApprovalStatus) (config : RemediationConfig)
    (at_ : Datetime) (nonce tokenId : String) : ApprovalTokenClaims :=
  { tokenId
    planSha256 := plan.planSha256
    incidentId := plan.incidentId
    actionIds := plan.actions.map RemediationAction.actionId
    approvalSnapshotSha256 := status.approvalSnapshotSha256
    issuedAt := at_
    expiresAt := tokenExpiry plan config at_
    nonce }

section
variable [TokenText]

/-- `_b64encode` -/
def encodeSegment (value : Bytes) : String := TokenFormat.b64encode value

/-- `issue_token`, with the nonce and the id that it is given or draws. -/
def issueToken (plan : RemediationPlan) (status : ApprovalStatus) (config : RemediationConfig)
    (at_ : Datetime) (secret : Bytes) (nonce tokenId : String) : Except Error String := do
  raiseIf (status.status ≠ .approved) (.approvalError "approval token requires an approved plan")
  raiseIf (status.planSha256 ≠ plan.planSha256)
    (.approvalError "approval status is bound to a different plan")
  raiseIf (plan.expiresAt.instant ≤ at_.instant)
    (.approvalError "remediation plan has expired")
  raiseIf (secret.length < config.approval.minimumSecretBytes)
    (.approvalError "approval secret is shorter than the configured minimum")
  let claims ← modelValidate (issuedClaims plan status config at_ nonce tokenId)
  let payload := TokenText.dumpClaims claims
  let signature := TokenFormat.hmacDigest secret payload
  pure (encodeSegment payload ++ "." ++ encodeSegment signature)

end

theorem tokenExpiry_instant (plan : RemediationPlan) (config : RemediationConfig) (at_ : Datetime) :
    (tokenExpiry plan config at_).instant =
      min plan.expiresAt.instant (at_.instant + config.approval.tokenTtlMinutes * 60000000) := by
  have hlimit : (at_.addMinutes config.approval.tokenTtlMinutes).instant =
      at_.instant + config.approval.tokenTtlMinutes * 60000000 := rfl
  rw [tokenExpiry, ← hlimit]
  rcases lt_or_ge (at_.addMinutes config.approval.tokenTtlMinutes).instant plan.expiresAt.instant
    with hlt | hle
  · rw [if_pos hlt, min_eq_right hlt.le]
  · rw [if_neg (not_lt.mpr hle), min_eq_left hle]

-- ---------------------------------------------------------------------------
-- Verifying
-- ---------------------------------------------------------------------------

section
variable [TokenFormat]

/-- The two segments of a token decode to a payload and a signature. -/
def Segments (token : String) (payload signature : Bytes) : Prop :=
  ∃ payloadText signatureText,
    (token.toList.splitOn '.').map String.ofList = [payloadText, signatureText] ∧
    decodeSegment payloadText = .ok payload ∧ decodeSegment signatureText = .ok signature

/-- What binds claims to a plan, to a status and to a moment. -/
structure ClaimsHold (claims : ApprovalTokenClaims) (plan : RemediationPlan)
    (status : ApprovalStatus) (at_ : Datetime) : Prop where
  approved : status.status = .approved
  planSha256 : claims.planSha256 = plan.planSha256
  incidentId : claims.incidentId = plan.incidentId
  snapshot : claims.approvalSnapshotSha256 = status.approvalSnapshotSha256
  actionIds : claims.actionIds = plan.actions.map RemediationAction.actionId
  issued : claims.issuedAt.instant ≤ at_.instant
  expires : at_.instant < claims.expiresAt.instant
  planExpires : at_.instant < plan.expiresAt.instant

theorem verifyToken_ok : verifyToken token plan status config at_ secret = .ok claims ↔
    config.approval.minimumSecretBytes ≤ secret.length ∧
    (∃ payload, Segments token payload (TokenFormat.hmacDigest secret payload) ∧
      TokenFormat.loadClaims payload = some claims) ∧
    ClaimsHold claims plan status at_ := by
  unfold verifyToken
  constructor
  · intro h
    simp only [bind_eq_ok, raiseIf_ok, not_lt] at h
    obtain ⟨_, hsecret, h⟩ := h
    split at h
    · next payloadText signatureText hsplit =>
      simp only [bind_eq_ok, raiseIf_ok, need_ok, pure_eq_ok, not_or, not_not, not_lt, not_le] at h
      obtain ⟨payload, hpayload, supplied, hsignature, _, rfl, _, hload, _, hstatus, _, ⟨hplan, hincident⟩,
        _, hsnapshot, _, hactions, _, ⟨hissued, hexpires, hend⟩, rfl⟩ := h
      exact ⟨hsecret, ⟨payload, ⟨_, _, hsplit, hpayload, hsignature⟩, hload⟩,
        hstatus, hplan, hincident, hsnapshot, hactions, hissued, hexpires, hend⟩
    · exact absurd h (by rintro ⟨⟩)
  · rintro ⟨hsecret, ⟨payload, ⟨payloadText, signatureText, hsplit, hpayload, hsignature⟩, hload⟩, h⟩
    rw [raiseIf_neg (not_lt.mpr hsecret), ok_bind, hsplit]
    simp only
    rw [hpayload, ok_bind, hsignature, ok_bind, raiseIf_neg (not_not.mpr rfl), ok_bind, hload, need,
      ok_bind, raiseIf_neg (not_not.mpr h.approved), ok_bind,
      raiseIf_neg (not_or.mpr ⟨not_not.mpr h.planSha256, not_not.mpr h.incidentId⟩), ok_bind,
      raiseIf_neg (not_not.mpr h.snapshot), ok_bind, raiseIf_neg (not_not.mpr h.actionIds), ok_bind,
      raiseIf_neg (by simp [h.issued, h.expires, h.planExpires]), ok_bind]
    rfl

theorem decodeSegment_error {value : String} (h : decodeSegment value = .error e) :
    e = .approvalError "approval token signature or encoding is invalid" :=
  (need_error.mp h).2.symm

/-- Whatever is refused, is refused as an approval error. -/
def Refuses (x : Except Error α) : Prop := ∀ e, x = .error e → ∃ message, e = .approvalError message

omit [TokenFormat] in
theorem Refuses.bind {x : Except Error α} {f : α → Except Error β} (hx : Refuses x)
    (hf : ∀ a, Refuses (f a)) : Refuses (x >>= f) := by
  intro e he
  cases x with
  | error e' =>
    obtain rfl := Except.error.inj he
    exact hx _ rfl
  | ok a => exact hf a e he

omit [TokenFormat] in
theorem refuses_raiseIf {c : Prop} [Decidable c] : Refuses (raiseIf c (.approvalError message)) :=
  fun _ he => ⟨message, (raiseIf_error.mp he).2.symm⟩

omit [TokenFormat] in
theorem refuses_need {o : Option α} : Refuses (need o (.approvalError message)) :=
  fun _ he => ⟨message, (need_error.mp he).2.symm⟩

theorem verifyToken_refuses : Refuses (verifyToken token plan status config at_ secret) := by
  refine refuses_raiseIf.bind fun _ => ?_
  split
  · refine refuses_need.bind fun payload => refuses_need.bind fun supplied => ?_
    refine refuses_raiseIf.bind fun _ => refuses_need.bind fun claims => ?_
    refine refuses_raiseIf.bind fun _ => refuses_raiseIf.bind fun _ => ?_
    refine refuses_raiseIf.bind fun _ => refuses_raiseIf.bind fun _ => ?_
    exact refuses_raiseIf.bind fun _ => nofun
  · exact fun e he => ⟨_, (Except.error.inj he).symm⟩

end

-- ---------------------------------------------------------------------------
-- Texts and bytes
-- ---------------------------------------------------------------------------

section
variable [TokenText]

/-- A segment decodes to exactly the bytes that it encodes. -/
theorem decodeSegment_iff {value : String} {bytes : Bytes} :
    decodeSegment value = .ok bytes ↔ value = encodeSegment bytes := by
  rw [decodeSegment, need_ok, Option.filter_eq_some_iff, decide_eq_true_iff]
  constructor
  · exact fun h => h.2.symm
  · rintro rfl
    refine ⟨?_, rfl⟩
    have htext : (encodeSegment bytes).toList = Base64.encodeUrl bytes := String.toList_ofList
    change Base64.decodeUrl (encodeSegment bytes).toList = some bytes
    rw [htext, Base64.decodeUrl_encodeUrl]

/-- The text of a token with the bytes of its segments. -/
def tokenText (payload signature : Bytes) : String :=
  encodeSegment payload ++ "." ++ encodeSegment signature

theorem segments_iff : Segments token payload signature ↔ token = tokenText payload signature := by
  have htoList : ∀ bytes : Bytes, (encodeSegment bytes).toList = Base64.encodeUrl bytes :=
    fun _ => String.toList_ofList
  have htext : (tokenText payload signature).toList =
      ['.'].intercalate [(encodeSegment payload).toList, (encodeSegment signature).toList] := by
    simp [tokenText, List.intercalate]
  constructor
  · rintro ⟨payloadText, signatureText, hsplit, hpayload, hsignature⟩
    obtain rfl := decodeSegment_iff.mp hpayload
    obtain rfl := decodeSegment_iff.mp hsignature
    have hlists : token.toList.splitOn '.' =
        [(encodeSegment payload).toList, (encodeSegment signature).toList] := by
      have hmap := congrArg (List.map String.toList) hsplit
      simpa [List.map_map, Function.comp_def] using hmap
    refine String.toList_inj.mp ?_
    rw [htext, ← hlists, List.intercalate_splitOn]
  · rintro rfl
    refine ⟨_, _, ?_, decodeSegment_iff.mpr rfl, decodeSegment_iff.mpr rfl⟩
    rw [htext, List.splitOn_intercalate]
    · simp
    · simp only [List.forall_mem_cons, htoList]
      exact ⟨Base64.encodeUrl_no_dot _, Base64.encodeUrl_no_dot _, List.forall_mem_nil _⟩
    · exact List.cons_ne_nil _ _

/-- The bytes of the segments are fixed by the text of the token. -/
theorem tokenText_injective (h : tokenText payload signature = tokenText payload' signature') :
    payload = payload' ∧ signature = signature' := by
  have hsegments : Segments (tokenText payload signature) payload signature := segments_iff.mpr rfl
  obtain ⟨_, _, hsplit, hpayload, hsignature⟩ := hsegments
  obtain ⟨_, _, hsplit', hpayload', hsignature'⟩ := segments_iff.mpr h
  obtain ⟨rfl, hrest⟩ := List.cons.inj (hsplit.symm.trans hsplit')
  obtain ⟨rfl, -⟩ := List.cons.inj hrest
  exact ⟨Except.ok.inj (hpayload.symm.trans hpayload'),
    Except.ok.inj (hsignature.symm.trans hsignature')⟩

/-- A text decodes to the bytes it is the encoding of and to no others, and two
tokens that are accepted are one unless their bytes differ. -/
theorem token_not_malleable :
    (∀ (value : String) (bytes : Bytes),
      decodeSegment value = .ok bytes ↔ value = encodeSegment bytes) ∧
    (∀ (value : String) (e : Error), decodeSegment value = .error e →
      e = .approvalError "approval token signature or encoding is invalid") ∧
    ∀ {token token' : String} {plan plan' : RemediationPlan} {status status' : ApprovalStatus}
      {config config' : RemediationConfig} {at_ at_' : Datetime} {secret : Bytes}
      {claims claims' : ApprovalTokenClaims},
      verifyToken token plan status config at_ secret = .ok claims →
      verifyToken token' plan' status' config' at_' secret = .ok claims' → token ≠ token' →
      ∃ payload signature payload' signature', Segments token payload signature ∧
        Segments token' payload' signature' ∧ (payload ≠ payload' ∨ signature ≠ signature') := by
  refine ⟨fun _ _ => decodeSegment_iff, fun _ _ h => decodeSegment_error h, ?_⟩
  intro token token' _ _ _ _ _ _ _ _ secret _ _ h h' hne
  obtain ⟨-, ⟨payload, hsegments, -⟩, -⟩ := verifyToken_ok.mp h
  obtain ⟨-, ⟨payload', hsegments', -⟩, -⟩ := verifyToken_ok.mp h'
  refine ⟨payload, _, payload', _, hsegments, hsegments', ?_⟩
  by_contra hsame
  obtain ⟨hpayload, hsignature⟩ := not_or.mp hsame
  rw [not_not] at hpayload hsignature
  refine hne ((segments_iff.mp hsegments).trans ?_)
  rw [segments_iff.mp hsegments', hpayload]

-- ---------------------------------------------------------------------------
-- The window of a token
-- ---------------------------------------------------------------------------

theorem issueToken_ok : issueToken plan status config at_ secret nonce tokenId = .ok token ↔
    status.status = .approved ∧ status.planSha256 = plan.planSha256 ∧
    at_.instant < plan.expiresAt.instant ∧ config.approval.minimumSecretBytes ≤ secret.length ∧
    let claims := issuedClaims plan status config at_ nonce tokenId
    claims.Valid ∧ token = tokenText (TokenText.dumpClaims claims)
      (TokenFormat.hmacDigest secret (TokenText.dumpClaims claims)) := by
  simp only [issueToken, bind_eq_ok, raiseIf_ok, modelValidate_ok, pure_eq_ok, not_not, not_lt,
    not_le, exists_and_left, exists_const]
  constructor
  · rintro ⟨hstatus, hplan, hexpires, hsecret, _, ⟨hvalid, rfl⟩, rfl⟩
    exact ⟨hstatus, hplan, hexpires, hsecret, hvalid, rfl⟩
  · rintro ⟨hstatus, hplan, hexpires, hsecret, hvalid, rfl⟩
    exact ⟨hstatus, hplan, hexpires, hsecret, _, ⟨hvalid, rfl⟩, rfl⟩

end

-- ---------------------------------------------------------------------------
-- A token of the sample's plan
-- ---------------------------------------------------------------------------

namespace Sample

def momentJson (t : Datetime) : Json := .arr [.int t.instant, .opt .int t.utcoffset]

def readMoment : Json → Option Datetime
  | .arr [.int n, .int offset] => some ⟨n, some offset⟩
  | .arr [.int n, _] => some ⟨n, none⟩
  | _ => none

def readStr : Json → Option String
  | .str s => some s
  | _ => none

def claimsJson (c : ApprovalTokenClaims) : Json :=
  .arr [.str c.tokenId, .str c.planSha256, .str c.incidentId, .arr (c.actionIds.map .str),
    .str c.approvalSnapshotSha256, momentJson c.issuedAt, momentJson c.expiresAt, .str c.nonce]

def readClaims : Json → Option ApprovalTokenClaims
  | .arr [.str tokenId, .str planSha256, .str incidentId, .arr actionIds, .str snapshot, issuedAt,
      expiresAt, .str nonce] => do
    let issuedAt ← readMoment issuedAt
    let expiresAt ← readMoment expiresAt
    let actionIds := actionIds.filterMap readStr
    some ⟨tokenId, planSha256, incidentId, actionIds, snapshot, issuedAt, expiresAt, nonce⟩
  | _ => none

theorem readMoment_json (t : Datetime) : readMoment (momentJson t) = some t := by
  rcases t with ⟨n, _ | offset⟩ <;> rfl

theorem readClaims_json (c : ApprovalTokenClaims) : readClaims (claimsJson c) = some c := by
  have hids : (c.actionIds.map Json.str).filterMap readStr = c.actionIds := by
    rw [List.filterMap_map]
    exact List.filterMap_some
  simp only [readClaims, claimsJson, readMoment_json, Option.bind_eq_bind, Option.bind_some, hids]

/-- A number as bytes, the lowest first. -/
def numberBytes (n : Nat) : Bytes := (Nat.digits 256 n).map UInt8.ofNat

theorem ofDigits_numberBytes (n : Nat) :
    Nat.ofDigits 256 ((numberBytes n).map UInt8.toNat) = n := by
  have hdigits : (numberBytes n).map UInt8.toNat = Nat.digits 256 n := by
    rw [numberBytes, List.map_map]
    refine (List.map_congr_left fun d hd => ?_).trans (List.map_id' _)
    exact UInt8.toNat_ofNat_of_lt' (Nat.digits_lt_base (by decide) hd)
  rw [hdigits, Nat.ofDigits_digits]

/-- Claims are written as the number of their JSON. -/
@[reducible] def tokenNumbers : TokenText where
  hmacDigest key payload :=
    Platform.bytes 32 ((key ++ payload).foldl (fun h b => Platform.mix h b.toNat) 15)
  dumpClaims c := numberBytes (Encodable.encode (JsonCode.ofJson (claimsJson c)))
  loadClaims payload :=
    (((Encodable.decode (Nat.ofDigits 256 (payload.map UInt8.toNat))).bind JsonCode.toJson).bind
      readClaims).filter fun c => Model.Valid c
  loadClaims_valid {payload claims} h :=
    of_decide_eq_true (p := Model.Valid claims) (Option.filter_eq_some_iff.mp h).2
  loadClaims_dump {claims} h := by
    have hvalid : decide (Model.Valid claims) = true :=
      decide_eq_true (show Model.Valid claims from h)
    rw [ofDigits_numberBytes, Encodable.encodek, Option.bind_some, JsonCode.toJson_ofJson,
      Option.bind_some, readClaims_json, Option.filter_some, if_pos hvalid]

local instance : TokenText := tokenNumbers

theorem issuedClaims_valid (manifest : String) :
    (issuedClaims (plan manifest) (status (plan manifest) (sha 5)) config (at_ 6) "nonce of token 1"
      "token").Valid where
  tokenId := (by decide : isIdentifier "token" = true)
  planSha256 := digest_hex _
  incidentId := (by decide : isIdentifier "incident" = true)
  actionCount := (by decide : lengthIn ["disable", "restore"] 1 10)
  actionIds := (by decide : ∀ a ∈ ["disable", "restore"], isIdentifier a = true)
  approvalSnapshotSha256 := sha_hex 5
  issuedAt := rfl
  expiresAt := rfl
  nonce := (by decide : textIn "nonce of token 1" 16 200)
  window := (by decide : (at_ 6).instant < (at_ 16).instant)
  unique := (by decide : ["disable", "restore"].Nodup)

theorem token_issued : ∃ token, issueToken (plan (sha 4)) (status (plan (sha 4)) (sha 5)) config
    (at_ 6) secret "nonce of token 1" "token" = .ok token :=
  ⟨_, issueToken_ok.mpr ⟨rfl, rfl, by decide, by decide, issuedClaims_valid (sha 4), rfl⟩⟩

end Sample

end Paic.Remediation
