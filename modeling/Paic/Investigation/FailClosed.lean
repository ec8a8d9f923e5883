import Paic.Investigation.Provider

/-!
# When a response fails closed

What `_parse` returns has unique keys and known names. Which exceptions are
raised outside the `except` clause is read off the body: `Routable` says that
none is.
-/

namespace Paic.Investigation.Provider

open Checks (raiseIf need loop bind_eq_ok bind_eq_error pure_eq_ok)

-- ---------------------------------------------------------------------------
-- Unique keys
-- ---------------------------------------------------------------------------

mutual
/-- No object has a key twice, at any depth. -/
def Value.Unique : Value → Prop
  | .arr items => ItemsUnique items
  | .obj pairs => (pairs.map Prod.fst).Nodup ∧ PairsUnique pairs
  | _ => True
def ItemsUnique : List Value → Prop
  | [] => True
  | item :: items => item.Unique ∧ ItemsUnique items
def PairsUnique : Fields → Prop
  | [] => True
  | (_, value) :: pairs => value.Unique ∧ PairsUnique pairs
end

theorem loop_unique {pairs acc result : Fields} (hacc : (acc.map Prod.fst).Nodup)
    (h : loop (fun (result : Fields) (pair : Text × Value) => do
      raiseIf (pair.1 ∈ result.map Prod.fst) LoadError.valueError
      pure (result ++ [pair])) acc pairs = .ok result) :
    result = acc ++ pairs ∧ (result.map Prod.fst).Nodup := by
  induction pairs generalizing acc with
  | nil =>
    obtain rfl := Except.ok.inj h
    exact ⟨(List.append_nil _).symm, hacc⟩
  | cons pair pairs ih =>
    obtain ⟨mid, hmid, hrest⟩ := Checks.loop_cons.mp h
    simp only [bind_eq_ok, Checks.raiseIf_ok, pure_eq_ok, exists_and_left, exists_const] at hmid
    obtain ⟨hnew, rfl⟩ := hmid
    have hnodup : ((acc ++ [pair]).map Prod.fst).Nodup := by
      rw [List.map_append, List.map_singleton, ← List.concat_eq_append]
      exact hacc.concat hnew
    obtain ⟨rfl, hresult⟩ := ih hnodup hrest
    rw [List.append_assoc, List.singleton_append] at hresult ⊢
    exact ⟨rfl, hresult⟩

theorem uniqueObject_ok {pairs : Fields} (h : uniqueObject pairs = .ok value) :
    value = .obj pairs ∧ (pairs.map Prod.fst).Nodup := by
  simp only [uniqueObject, bind_eq_ok, pure_eq_ok] at h
  obtain ⟨result, hloop, rfl⟩ := h
  have hnil : (([] : Fields).map Prod.fst).Nodup := List.nodup_nil
  obtain ⟨rfl, hnodup⟩ := loop_unique hnil hloop
  exact ⟨rfl, hnodup⟩

mutual
/-- The hook returns every object as the text has it. -/
theorem hooked_unique : ∀ {t value : Value}, hooked uniqueObject t = .ok value →
    value = t ∧ t.Unique
  | .arr items, value, h => by
    simp only [hooked, bind_eq_ok, pure_eq_ok] at h
    obtain ⟨values, hvalues, rfl⟩ := h
    obtain ⟨rfl, hunique⟩ := hookedItems_unique hvalues
    exact ⟨rfl, hunique⟩
  | .obj pairs, value, h => by
    simp only [hooked, bind_eq_ok] at h
    obtain ⟨values, hvalues, hhook⟩ := h
    obtain ⟨rfl, hunique⟩ := hookedPairs_unique hvalues
    obtain ⟨rfl, hnodup⟩ := uniqueObject_ok hhook
    exact ⟨rfl, hnodup, hunique⟩
  | .null, value, h | .bool _, value, h | .int _, value, h | .float _, value, h
  | .str _, value, h => by
    simp only [hooked, Except.ok.injEq] at h
    exact ⟨h.symm, trivial⟩
theorem hookedItems_unique : ∀ {items values : List Value},
    hookedItems uniqueObject items = .ok values → values = items ∧ ItemsUnique items
  | [], values, h => by
    rw [hookedItems] at h
    exact ⟨(Except.ok.inj h).symm, trivial⟩
  | item :: items, values, h => by
    simp only [hookedItems, bind_eq_ok, pure_eq_ok] at h
    obtain ⟨first, hfirst, rest, hrest, rfl⟩ := h
    obtain ⟨rfl, hitem⟩ := hooked_unique hfirst
    obtain ⟨rfl, hitems⟩ := hookedItems_unique hrest
    exact ⟨rfl, hitem, hitems⟩
theorem hookedPairs_unique : ∀ {pairs values : Fields},
    hookedPairs uniqueObject pairs = .ok values → values = pairs ∧ PairsUnique pairs
  | [], values, h => by
    rw [hookedPairs] at h
    exact ⟨(Except.ok.inj h).symm, trivial⟩
  | (key, item) :: pairs, values, h => by
    simp only [hookedPairs, bind_eq_ok, pure_eq_ok] at h
    obtain ⟨first, hfirst, rest, hrest, rfl⟩ := h
    obtain ⟨rfl, hitem⟩ := hooked_unique hfirst
    obtain ⟨rfl, hpairs⟩ := hookedPairs_unique hrest
    exact ⟨rfl, hitem, hpairs⟩
end

@[simp] theorem dict?_eq_some {value : Value} : value.dict? = some fields ↔ value = .obj fields := by
  cases value <;> simp [Value.dict?]

@[simp] theorem str?_eq_some {value : Value} : value.str? = some text ↔ value = .str text := by
  cases value <;> simp [Value.str?]

@[simp] theorem items?_eq_some {value : Value} : value.items? = some items ↔ value = .arr items := by
  cases value <;> simp [Value.items?]

theorem mapError_ok {f : ε → ε'} {x : Except ε α} : x.mapError f = .ok a ↔ x = .ok a := by
  cases x <;> simp [Except.mapError]

section
variable [JsonDecoder]

/-- The object of a text that has no key twice. -/
def FromText (arguments : Fields) : Prop :=
  ∃ text, JsonDecoder.tree text = some (.obj arguments) ∧ (Value.obj arguments).Unique

theorem loads_fromText (h : loads text = .ok (.obj arguments)) : FromText arguments := by
  rw [loads] at h
  split at h
  · contradiction
  · obtain ⟨t, ht, hhooked⟩ := JsonDecoder.decode_hooked (fun _ => ⟨_, rfl⟩) (mapError_ok.mp h)
    obtain ⟨rfl, hunique⟩ := hooked_unique hhooked
    exact ⟨text, ht, hunique⟩

-- ---------------------------------------------------------------------------
-- Well-formed bodies
-- ---------------------------------------------------------------------------

variable [FieldModels]

/-- A tool call is read up to the text of its arguments. -/
structure CallReads (known : List Text) (strictType : Bool) (item : Value) (callId name : Text)
    (text : Text) : Prop where
  function : ∃ fields function, item = .obj fields ∧ get fields "function" = .obj function ∧
    (strictType = true → get fields "type" = .str (Text.of "function")) ∧
    get fields "id" = .str callId ∧ get function "name" = .str name ∧
    argumentsText (get function "arguments") = some text
  known : Known known name

/-- A tool call that is accepted. -/
def CallReadsAs (known : List Text) (strictType : Bool) (item : Value) (call : ToolCall) : Prop :=
  ∃ text, CallReads known strictType item call.callId call.name text ∧
    loads text = .ok (.obj call.arguments) ∧ FieldModels.sized 1 200 call.callId = true ∧
    FieldModels.sized 1 200 call.name = true ∧
    ∀ pair ∈ call.arguments, FieldModels.plain pair.1 = true

def WellFormedCall (known : List Text) (strictType : Bool) (item : Value) : Prop :=
  ∃ call, CallReadsAs known strictType item call

/-- The token counts of a body are integers that are not negative, and a total
is not another one than that of its parts. -/
def WellFormedUsage (decoded : Fields) : Prop :=
  ∃ usage prompt completion total, usageFields (get decoded "usage") = some usage ∧
    tokenCount usage "prompt_tokens" = some prompt ∧
    tokenCount usage "completion_tokens" = some completion ∧
    tokenCount usage "total_tokens" = some total ∧
    (prompt + completion = 0 ∨ total = 0 ∨ total = prompt + completion)

/-- The first choice of a body, with what its message holds. -/
structure Reaches (raw : List UInt8) (decoded choice : Fields) (content : Option Text)
    (items : List Value) : Prop where
  loaded : loadsBytes raw = .ok (.obj decoded)
  message : ∃ rest message, get decoded "choices" = .arr (.obj choice :: rest) ∧
    get choice "message" = .obj message ∧ contentOf (get message "content") = some content ∧
    toolItems (get message "tool_calls") = some items

/-- The inputs on which nothing but a `ProviderError` escapes. -/
structure Routable (known : List Text) (strictType : Bool) (raw : List UInt8) : Prop where
  nesting : loadsBytes raw ≠ .error .recursionError
  object : ∀ value, loadsBytes raw = .ok value → ∃ decoded, value = .obj decoded
  arguments : ∀ decoded choice content items, Reaches raw decoded choice content items →
    ∀ front item back, items = front ++ item :: back →
      (∀ i ∈ front, WellFormedCall known strictType i) →
        ∀ callId name text, CallReads known strictType item callId name text →
          loads text ≠ .error .recursionError
  response : ∀ decoded choice content items, Reaches raw decoded choice content items →
    (∀ item ∈ items, WellFormedCall known strictType item) → WellFormedUsage decoded →
      (∀ text ∈ content, FieldModels.plain text = true) ∧
        ∃ reason, optionalText (get choice "finish_reason") = some reason

omit [JsonDecoder] in
theorem newToolCall_ok : newToolCall callId name arguments = .ok call ↔
    (FieldModels.sized 1 200 callId = true ∧ FieldModels.sized 1 200 name = true ∧
      ∀ pair ∈ arguments, FieldModels.plain pair.1 = true) ∧ ⟨callId, name, arguments⟩ = call := by
  simp only [newToolCall, bind_eq_ok, Checks.raiseIf_ok, pure_eq_ok, not_not, exists_and_left,
    exists_const]

theorem parseCall_ok : parseCall known strictType item = .ok call ↔
    CallReadsAs known strictType item call := by
  simp only [parseCall, bind_eq_ok, Checks.need_ok, Checks.raiseIf_ok, dict?_eq_some, str?_eq_some,
    newToolCall_ok, exists_and_left, exists_const, not_not, Decidable.not_and_not_right]
  constructor
  · rintro ⟨fields, hitem, htype, function, hfunction, callId, hid, name, hname, hknown, text, htext,
      decoded, hloads, arguments, rfl, ⟨hcallId, hsized, hkeys⟩, rfl⟩
    exact ⟨text, ⟨⟨fields, function, hitem, hfunction, htype, hid, hname, htext⟩, hknown⟩, hloads,
      hcallId, hsized, hkeys⟩
  · rintro ⟨text, ⟨⟨fields, function, hitem, hfunction, htype, hid, hname, htext⟩, hknown⟩, hloads,
      hcallId, hsized, hkeys⟩
    exact ⟨fields, hitem, htype, function, hfunction, _, hid, _, hname, hknown, text, htext, _,
      hloads, _, rfl, ⟨hcallId, hsized, hkeys⟩, rfl⟩

omit [JsonDecoder] [FieldModels] in
theorem raised_of_mapError {x : Except LoadError α} (h : x.mapError LoadError.raised = .error e)
    (hcaught : e.caught = false) : e = .recursionError := by
  cases x with
  | ok a => contradiction
  | error error =>
    obtain rfl := Except.error.inj h
    cases error with
    | valueError => contradiction
    | recursionError => rfl

omit [FieldModels] in
theorem loads_error (hcaught : e.caught = false) (h : loads text = .error e) :
    e = .recursionError := by
  rw [loads] at h
  split at h
  · obtain rfl := Except.error.inj h
    contradiction
  · exact raised_of_mapError h hcaught

omit [FieldModels] in
theorem loadsBytes_error (hcaught : e.caught = false) (h : loadsBytes raw = .error e) :
    e = .recursionError := by
  simp only [loadsBytes, bind_eq_error, Checks.need_error] at h
  rcases h with ⟨-, rfl⟩ | ⟨text, -, h⟩
  · contradiction
  · exact raised_of_mapError h hcaught

/-- Nothing but too deep a nesting of the arguments escapes from a call. -/
theorem parseCall_error {e : PyError} (hcaught : e.caught = false) :
    parseCall known strictType item = .error e ↔
      e = .recursionError ∧ ∃ callId name text,
        CallReads known strictType item callId name text ∧
          loads text = .error .recursionError := by
  have hvalue : PyError.valueError ≠ e := by
    rintro rfl
    contradiction
  have htypeError : PyError.typeError ≠ e := by
    rintro rfl
    contradiction
  have hvalidation : PyError.validationError ≠ e := by
    rintro rfl
    contradiction
  simp only [parseCall, newToolCall, bind_eq_error, Checks.need_ok, Checks.need_error,
    Checks.raiseIf_ok, Checks.raiseIf_error, Checks.pure_ne_error, hvalue, htypeError, hvalidation,
    and_false, exists_false, false_or, or_false, dict?_eq_some, str?_eq_some, exists_and_left,
    exists_const, not_not, Decidable.not_and_not_right]
  constructor
  · rintro ⟨fields, hitem, htype, function, hfunction, callId, hid, name, hname, hknown, text, htext,
      hloads⟩
    obtain rfl := loads_error hcaught hloads
    exact ⟨rfl, callId, name, text,
      ⟨⟨fields, function, hitem, hfunction, htype, hid, hname, htext⟩, hknown⟩, hloads⟩
  · rintro ⟨rfl, callId, name, text,
      ⟨⟨fields, function, hitem, hfunction, htype, hid, hname, htext⟩, hknown⟩, hloads⟩
    exact ⟨fields, hitem, htype, function, hfunction, callId, hid, name, hname, hknown, text, htext,
      hloads⟩

-- ---------------------------------------------------------------------------
-- The body
-- ---------------------------------------------------------------------------

theorem parseBody_ok : parseBody known strictType raw = .ok body ↔
    ∃ decoded items, Reaches raw decoded body.choice body.content items ∧
      items.mapM (parseCall known strictType) = .ok body.calls ∧
        ∃ usage, usageFields (get decoded "usage") = some usage ∧ newUsage usage = .ok body.usage := by
  simp only [parseBody, bind_eq_ok, Checks.need_ok, pure_eq_ok, dict?_eq_some, items?_eq_some]
  constructor
  · rintro ⟨_, hloaded, decoded, rfl, choices, hchoices, _, hhead, choice, rfl, message, hmessage,
      content, hcontent, items, hitems, calls, hcalls, usageRaw, husageRaw, usage, husage, rfl⟩
    obtain ⟨rest, rfl⟩ := List.head?_eq_some_iff.mp hhead
    exact ⟨decoded, items, ⟨hloaded, rest, message, hchoices, hmessage, hcontent, hitems⟩, hcalls,
      usageRaw, husageRaw, husage⟩
  · rintro ⟨decoded, items, ⟨hloaded, rest, message, hchoices, hmessage, hcontent, hitems⟩, hcalls,
      usageRaw, husageRaw, husage⟩
    exact ⟨_, hloaded, decoded, rfl, _, hchoices, _, rfl, body.choice, rfl, message, hmessage,
      body.content, hcontent, items, hitems, body.calls, hcalls, usageRaw, husageRaw, body.usage,
      husage, rfl⟩

/-- The three ways out of the `try`. -/
theorem parseBody_error {e : PyError} (hcaught : e.caught = false) :
    parseBody known strictType raw = .error e ↔
      loadsBytes raw = .error e ∨
      (e = .attributeError ∧ ∃ value, loadsBytes raw = .ok value ∧ value.dict? = none) ∨
      ∃ decoded choice content items, Reaches raw decoded choice content items ∧
        items.mapM (parseCall known strictType) = .error e := by
  have hvalue : PyError.valueError ≠ e := by
    rintro rfl
    contradiction
  have htypeError : PyError.typeError ≠ e := by
    rintro rfl
    contradiction
  have hvalidation : PyError.validationError ≠ e := by
    rintro rfl
    contradiction
  simp only [parseBody, newUsage, bind_eq_ok, bind_eq_error, Checks.need_ok, Checks.need_error,
    Checks.raiseIf_ok, Checks.raiseIf_error, Checks.pure_ne_error, hvalue, htypeError, hvalidation,
    and_false, exists_false, false_or, or_false, dict?_eq_some, items?_eq_some]
  refine or_congr_right ?_
  constructor
  · rintro ⟨value, hloaded, ⟨hdict, rfl⟩ | ⟨decoded, rfl, choices, hchoices, _, hhead, choice, rfl,
      message, hmessage, content, hcontent, items, hitems, hcalls⟩⟩
    · exact .inl ⟨rfl, value, hloaded, hdict⟩
    · obtain ⟨rest, rfl⟩ := List.head?_eq_some_iff.mp hhead
      exact .inr ⟨decoded, choice, content, items,
        ⟨hloaded, rest, message, hchoices, hmessage, hcontent, hitems⟩, hcalls⟩
  · rintro (⟨rfl, value, hloaded, hdict⟩ | ⟨decoded, choice, content, items,
      ⟨hloaded, rest, message, hchoices, hmessage, hcontent, hitems⟩, hcalls⟩)
    · exact ⟨value, hloaded, .inl ⟨hdict, rfl⟩⟩
    · exact ⟨_, hloaded, .inr ⟨decoded, rfl, _, hchoices, _, rfl, choice, rfl, message, hmessage,
        content, hcontent, items, hitems, hcalls⟩⟩

omit [JsonDecoder] in
theorem wellFormedUsage_iff : WellFormedUsage decoded ↔
    ∃ usage, usageFields (get decoded "usage") = some usage ∧ ∃ u, newUsage usage = .ok u := by
  simp only [newUsage, bind_eq_ok, Checks.need_ok, Checks.raiseIf_ok, pure_eq_ok, exists_and_left,
    exists_const]
  constructor
  · rintro ⟨usage, prompt, completion, total, husage, hprompt, hcompletion, htotal, hsum⟩
    exact ⟨usage, husage, _, prompt, hprompt, completion, hcompletion, total, htotal, by tauto, rfl⟩
  · rintro ⟨usage, husage, u, prompt, hprompt, completion, hcompletion, total, htotal, hsum, -⟩
    exact ⟨usage, prompt, completion, total, husage, hprompt, hcompletion, htotal, by tauto⟩

-- ---------------------------------------------------------------------------
-- The response
-- ---------------------------------------------------------------------------

/-- A `ProviderResponse` with unique keys and known names, or a `ProviderError`. -/
def FailsClosed (known : List Text) : Except PyError Response → Prop
  | .ok response => ∀ call ∈ response.toolCalls, FromText call.arguments ∧
      (known ≠ [] → call.name ∈ known ∨ call.name = Text.of submitTool)
  | .error e => ∃ p, e = .providerError p

omit [JsonDecoder] in
theorem newResponse_ok {body : Body} (h : newResponse model body = .ok response) :
    response.toolCalls = body.calls := by
  simp only [newResponse, bind_eq_ok, pure_eq_ok] at h
  obtain ⟨-, -, -, -, reason, -, rfl⟩ := h
  rfl

omit [JsonDecoder] in
/-- The response is refused outside the `try`. -/
theorem newResponse_error {body : Body} : newResponse model body = .error e ↔
    e = .validationError ∧ ¬ ((∀ text ∈ body.content, FieldModels.plain text = true) ∧
      ∃ reason, optionalText (get body.choice "finish_reason") = some reason) := by
  have hmodel : FieldModels.plain (Text.of model) = true := FieldModels.plain_of model
  simp only [newResponse, bind_eq_error, Checks.raiseIf_error, Checks.raiseIf_ok, Checks.need_error,
    Checks.pure_ne_error, hmodel, Bool.true_eq_false, false_and, not_false_eq_true, true_and,
    exists_const, and_false, or_false, false_or]
  constructor
  · rintro (⟨⟨text, htext, hplain⟩, rfl⟩ | ⟨hplain, hnone, rfl⟩)
    · refine ⟨rfl, fun h => ?_⟩
      rw [h.1 text htext] at hplain
      contradiction
    · refine ⟨rfl, ?_⟩
      rintro ⟨-, reason, hreason⟩
      rw [hnone] at hreason
      contradiction
  · rintro ⟨rfl, hrefused⟩
    by_cases hplain : ∃ text ∈ body.content, FieldModels.plain text = false
    · exact .inl ⟨hplain, rfl⟩
    · refine .inr ⟨hplain, ?_, rfl⟩
      have hall : ∀ text ∈ body.content, FieldModels.plain text = true := by
        intro text htext
        by_contra hfalse
        exact hplain ⟨text, htext, Bool.eq_false_iff.mpr hfalse⟩
      cases hreason : optionalText (get body.choice "finish_reason") with
      | none => rfl
      | some reason => exact absurd ⟨hall, reason, hreason⟩ hrefused

theorem parsed_calls (h : parseBody known strictType raw = .ok body) (hcall : call ∈ body.calls) :
    FromText call.arguments ∧ (known ≠ [] → call.name ∈ known ∨ call.name = Text.of submitTool) := by
  obtain ⟨decoded, items, -, hcalls, -⟩ := parseBody_ok.mp h
  obtain ⟨item, -, hitem⟩ := (Checks.mapM_mem hcalls).mp hcall
  obtain ⟨text, hreads, hloads, -⟩ := parseCall_ok.mp hitem
  exact ⟨loads_fromText hloads, fun hne => hreads.known.resolve_left hne⟩

theorem parse_escapes {e : PyError} (h : parseBody known strictType raw = .error e)
    (hcaught : e.caught = false) :
    parse providerLabel model known strictType raw = .error e := by
  simp only [parse, h, hcaught, Bool.false_eq_true, if_false]

omit [FieldModels] in
theorem not_failsClosed {e : PyError} {result : Except PyError Response}
    (h : result = .error e) (he : ∀ p, e ≠ .providerError p) : ¬ FailsClosed known result := by
  rintro hclosed
  rw [h] at hclosed
  obtain ⟨p, hp⟩ := hclosed
  exact he p hp

/-- `_parse` fails closed exactly on the bodies that are routable. -/
theorem parse_fails_closed_iff :
    FailsClosed known (parse providerLabel model known strictType raw) ↔
      Routable known strictType raw := by
  constructor
  · intro hclosed
    constructor
    case nesting =>
      intro hdeep
      have hbody : parseBody known strictType raw = .error .recursionError :=
        (parseBody_error rfl).mpr (.inl hdeep)
      exact not_failsClosed (parse_escapes hbody rfl) nofun hclosed
    case object =>
      intro value hvalue
      rcases hdict : value.dict? with _ | decoded
      · have hbody : parseBody known strictType raw = .error .attributeError :=
          (parseBody_error rfl).mpr (.inr (.inl ⟨rfl, value, hvalue, hdict⟩))
        exact absurd hclosed (not_failsClosed (parse_escapes hbody rfl) nofun)
      · exact ⟨decoded, dict?_eq_some.mp hdict⟩
    case arguments =>
      intro decoded choice content items hreaches front item back hitems hfront callId name text
        hreads hdeep
      have hitem : parseCall known strictType item = .error .recursionError :=
        (parseCall_error rfl).mpr ⟨rfl, callId, name, text, hreads, hdeep⟩
      have hcalls : items.mapM (parseCall known strictType) = .error .recursionError :=
        Checks.mapM_error.mpr ⟨front, item, back, hitems, fun i hi =>
          (hfront i hi).imp fun _ => parseCall_ok.mpr, hitem⟩
      have hbody : parseBody known strictType raw = .error .recursionError :=
        (parseBody_error rfl).mpr (.inr (.inr ⟨decoded, choice, content, items, hreaches, hcalls⟩))
      exact not_failsClosed (parse_escapes hbody rfl) nofun hclosed
    case response =>
      intro decoded choice content items hreaches hitems husage
      have hreturned : ∃ calls, items.mapM (parseCall known strictType) = .ok calls :=
        Checks.mapM_returns.mpr fun item hitem => (hitems item hitem).imp fun _ => parseCall_ok.mpr
      obtain ⟨calls, hcalls⟩ := hreturned
      obtain ⟨usageRaw, husageRaw, usage, husage⟩ := wellFormedUsage_iff.mp husage
      have hbody : parseBody known strictType raw = .ok { choice, content, calls, usage } :=
        parseBody_ok.mpr ⟨decoded, items, hreaches, hcalls, usageRaw, husageRaw, husage⟩
      by_contra hrefused
      have hresponse : parse providerLabel model known strictType raw = .error .validationError := by
        rw [parse, hbody]
        exact newResponse_error.mpr ⟨rfl, hrefused⟩
      exact not_failsClosed hresponse nofun hclosed
  · intro hroutable
    cases hbody : parseBody known strictType raw with
    | ok body =>
      obtain ⟨decoded, items, hreaches, hcalls, usageRaw, husageRaw, husage⟩ := parseBody_ok.mp hbody
      rw [parse, hbody]
      change FailsClosed known (newResponse model body)
      cases hresponse : newResponse model body with
      | ok response =>
        intro call hcall
        rw [newResponse_ok hresponse] at hcall
        exact parsed_calls hbody hcall
      | error e =>
        obtain ⟨-, hrefused⟩ := newResponse_error.mp hresponse
        refine absurd (hroutable.response _ _ _ _ hreaches (fun item hitem => ?_) ?_) hrefused
        · obtain ⟨call, hcall⟩ := Checks.mapM_returns.mp ⟨_, hcalls⟩ item hitem
          exact ⟨call, parseCall_ok.mp hcall⟩
        · exact wellFormedUsage_iff.mpr ⟨usageRaw, husageRaw, body.usage, husage⟩
    | error e =>
      cases hcaught : e.caught with
      | true =>
        simp only [parse, hbody, hcaught, if_true]
        exact ⟨_, rfl⟩
      | false =>
        rcases (parseBody_error hcaught).mp hbody with hdeep | ⟨-, value, hvalue, hdict⟩ |
          ⟨decoded, choice, content, items, hreaches, hcalls⟩
        · rw [loadsBytes_error hcaught hdeep] at hdeep
          exact absurd hdeep hroutable.nesting
        · obtain ⟨decoded, rfl⟩ := hroutable.object value hvalue
          contradiction
        · obtain ⟨front, item, back, hitems, hfront, hitem⟩ := Checks.mapM_error.mp hcalls
          obtain ⟨rfl, callId, name, text, hreads, hdeep⟩ := (parseCall_error hcaught).mp hitem
          refine absurd hdeep (hroutable.arguments _ _ _ _ hreaches front item back hitems
            (fun i hi => ?_) callId name text hreads)
          exact (hfront i hi).imp fun _ => parseCall_ok.mp

end

namespace Sample

def tree (text : Text) : Option Value :=
  if text = Text.of "[]" then some (.arr [])
  else if text = Text.of "{}" then some (.obj [])
  else none

/-- A decoder of the empty array and the empty object, as ASCII. -/
instance : JsonDecoder where
  decodeBytes raw := if raw.all (· < 128) then some ⟨raw.map UInt8.toNat⟩ else none
  tree := tree
  decode hooks text :=
    match tree text with
    | some t => hooked hooks.object t
    | none => .error .valueError
  decode_hooked := by
    intro hooks text value _ h
    split at h
    next t ht => exact ⟨t, ht, h⟩
    next => contradiction

instance : FieldModels where
  plain _ := true
  sized low high text := low ≤ text.points.length ∧ text.points.length ≤ high
  laxInt
    | .int n => some n
    | _ => none
  plain_of _ := rfl

end Sample

/-- The body `[]` has no `get`. -/
theorem array_body_escapes : parse "Groq" "model" [Text.of "sql__query"] true [0x5b, 0x5d] =
      .error .attributeError ∧
    ¬ FailsClosed [Text.of "sql__query"]
      (parse "Groq" "model" [Text.of "sql__query"] true [0x5b, 0x5d]) := by
  have htext : JsonDecoder.decodeBytes [0x5b, 0x5d] = some (Text.of "[]") := by decide
  have htree : Sample.tree (Text.of "[]") = some (.arr []) := if_pos rfl
  have hloads : loadsBytes [0x5b, 0x5d] = .ok (.arr []) := by
    rw [loadsBytes, htext]
    simp only [need, Checks.ok_bind, JsonDecoder.decode, htree]
    rfl
  have hbody : parseBody [Text.of "sql__query"] true [0x5b, 0x5d] = .error .attributeError := by
    rw [parseBody, hloads]
    rfl
  have hescapes : parse "Groq" "model" [Text.of "sql__query"] true [0x5b, 0x5d] =
      .error .attributeError := parse_escapes hbody rfl
  exact ⟨hescapes, not_failsClosed hescapes (by rintro _ ⟨⟩)⟩

end Paic.Investigation.Provider
