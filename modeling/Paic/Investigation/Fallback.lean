import Paic.Investigation.Sample
import Mathlib

/-!
# The fallback of the router

A call of `ModelRouter.complete` tries the routes from the preferred one on,
each at most once. `tryRoutes_walk` says of the loop which tries it makes and
how it ends; `router_fallback` takes this through the calls of one router.
-/

namespace Paic.Investigation

/-- One try of a route. -/
structure Try where
  route : ModelRoute
  index : Nat
  outcome : Except ProviderError ProviderResponse

/-- The entry of a try. -/
def Try.attempt (t : Try) : ModelAttempt :=
  match t.outcome with
  | .ok response => successfulAttempt t.route response
  | .error e => failedAttempt t.route e

/-- The providers gave these outcomes, one after the other. -/
inductive Asked (env : Environment σ) (messages : List ChatMessage) (tools : List Json) :
    σ → List Try → σ → Prop
  | nil : Asked env messages tools world [] world
  | cons : env.complete t.route messages tools world = (t.outcome, mid) →
      Asked env messages tools mid tries world' → Asked env messages tools world (t :: tries) world'

def outcomes (tries : List Try) : List (Except ProviderError ProviderResponse) :=
  tries.map Try.outcome

-- ---------------------------------------------------------------------------
-- One call
-- ---------------------------------------------------------------------------

/-- What the loop does with the routes that are left. -/
structure Walk (env : Environment σ) (limit : Nat) (tools : List Json)
    (todo : List (ModelRoute × Nat)) (s : State σ) (tries : List Try)
    (result : Except ProviderError ProviderResponse) (s' : State σ) : Prop where
  asked : Asked env s.messages tools s.world tries s'.world
  order : tries.map (fun t => (t.route, t.index)) <+: todo
  attempts : s'.router.attempts = s.router.attempts ++ tries.map Try.attempt
  failures : s'.router.failures = s.router.failures + Investigation.failures (outcomes tries)
  -- a success ends the call
  success : ∀ front t rest response, tries = front ++ t :: rest → t.outcome = .ok response →
    rest = [] ∧ result = .ok response ∧ s'.router.preferredRouteIndex = t.index
  -- and so does an error that is not retryable, or one too many
  fatal : ∀ front t rest e, tries = front ++ t :: rest → t.outcome = .error e →
    (e.retryable = false ∨ limit < s.router.failures + front.length + 1) →
      rest = [] ∧ result = .error e
  exhausted : ∀ front t e, tries = front ++ [t] → t.outcome = .error e → e.retryable = true →
    s.router.failures + front.length + 1 ≤ limit → result = .error e ∧ tries.length = todo.length
  preferred : ∀ e, result = .error e →
    s'.router.preferredRouteIndex = s.router.preferredRouteIndex
  answered : tries = [] → todo = []

def noModels : ProviderError := ⟨"no_models", "no model route is configured", false⟩

/-- One try that ends the call. -/
theorem walk_single {env : Environment σ} {todo : List (ModelRoute × Nat)} {s s' : State σ} {t : Try}
    (hasked : env.complete t.route s.messages tools s.world = (t.outcome, s'.world))
    (htodo : (t.route, t.index) :: rest = todo)
    (hattempts : s'.router.attempts = s.router.attempts ++ [t.attempt])
    (hfailures : s'.router.failures = s.router.failures + failures [t.outcome])
    (hpreferred : s'.router.preferredRouteIndex =
      if t.outcome.isOk then t.index else s.router.preferredRouteIndex)
    (hstop : ∀ e, t.outcome = .error e →
      e.retryable = false ∨ limit < s.router.failures + 1) :
    Walk env limit tools todo s [t] t.outcome s' := by
  have hone : ∀ {front : List Try} {t' rest}, [t] = front ++ t' :: rest →
      front = [] ∧ t = t' ∧ rest = [] := by
    intro front t' rest heq
    cases front with
    | nil =>
      obtain ⟨rfl, rfl⟩ := List.cons.inj heq
      exact ⟨rfl, rfl, rfl⟩
    | cons _ front =>
      have hnil := (List.cons.inj heq).2
      simp at hnil
  constructor
  case asked => exact .cons hasked .nil
  case order => exact ⟨rest, htodo⟩
  case attempts => exact hattempts
  case failures => exact hfailures
  case success =>
    intro front t' rest' response heq hok
    obtain ⟨-, rfl, rfl⟩ := hone heq
    rw [hok] at hpreferred
    exact ⟨rfl, hok, hpreferred⟩
  case fatal =>
    intro front t' rest' e heq herror _
    obtain ⟨-, rfl, rfl⟩ := hone heq
    exact ⟨rfl, herror⟩
  case exhausted =>
    intro front t' e heq herror hretryable hle
    obtain ⟨rfl, rfl, -⟩ := hone heq
    rcases hstop e herror with hfatal | hlimit
    · rw [hfatal] at hretryable
      contradiction
    · exact absurd hlimit (Nat.not_lt.mpr hle)
  case preferred =>
    intro e herror
    rw [herror] at hpreferred
    exact hpreferred
  case answered => exact nofun

/-- A retryable failure, after which the loop goes on. -/
theorem Walk.cons {env : Environment σ} {todo : List (ModelRoute × Nat)} {s s' : State σ}
    {route : ModelRoute} {e : ProviderError}
    (hcomplete : env.complete route s.messages tools s.world = (.error e, world))
    (hretryable : e.retryable = true) (hlimit : s.router.failures + 1 ≤ limit)
    (hwalk : Walk env limit tools todo (s.failed route e world) tries result s')
    (hlast : tries = [] → result = .error e) :
    Walk env limit tools ((route, index) :: todo) s (⟨route, index, .error e⟩ :: tries) result s' := by
  constructor
  case asked => exact .cons hcomplete hwalk.asked
  case order => exact List.cons_prefix_cons.mpr ⟨rfl, hwalk.order⟩
  case attempts =>
    rw [hwalk.attempts, List.map_cons]
    exact List.append_assoc ..
  case failures =>
    have hfailures : Investigation.failures ([.error e] ++ outcomes tries) =
        1 + Investigation.failures (outcomes tries) := failures_append
    change _ = _ + Investigation.failures ([.error e] ++ outcomes tries)
    rw [hwalk.failures, hfailures]
    exact Nat.add_assoc ..
  case success =>
    intro front t rest response heq hok
    cases front with
    | nil =>
      obtain ⟨rfl, -⟩ := List.cons.inj heq
      contradiction
    | cons _ front => exact hwalk.success front t rest response (List.cons.inj heq).2 hok
  case fatal =>
    intro front t rest e' heq herror hstop
    cases front with
    | nil =>
      obtain ⟨rfl, -⟩ := List.cons.inj heq
      obtain rfl := Except.error.inj herror
      rcases hstop with hfatal | hlimit'
      · rw [hfatal] at hretryable
        contradiction
      · exact absurd hlimit' (Nat.not_lt.mpr hlimit)
    | cons _ front =>
      refine hwalk.fatal front t rest e' (List.cons.inj heq).2 herror (hstop.imp_right fun h => ?_)
      rwa [List.length_cons, ← Nat.add_assoc, Nat.add_right_comm s.router.failures] at h
  case exhausted =>
    intro front t e' heq herror hretryable' hle
    cases front with
    | nil =>
      obtain ⟨rfl, rfl⟩ := List.cons.inj heq
      obtain rfl := Except.error.inj herror
      refine ⟨hlast rfl, ?_⟩
      rw [hwalk.answered rfl]
      rfl
    | cons _ front =>
      rw [List.length_cons, ← Nat.add_assoc, Nat.add_right_comm s.router.failures] at hle
      obtain ⟨hresult, hlength⟩ := hwalk.exhausted front t e' (List.cons.inj heq).2 herror
        hretryable' hle
      exact ⟨hresult, congrArg Nat.succ hlength⟩
  case preferred => exact hwalk.preferred
  case answered => exact nofun

/-- The loop, from the error it has seen last. -/
theorem tryRoutes_walk {env : Environment σ} {config : InvestigationConfig}
    {todo : List (ModelRoute × Nat)} {s s' : State σ}
    (h : tryRoutes env config tools todo last s = (result, s')) :
    ∃ tries, Walk env config.budget.maxProviderFailures tools todo s tries result s' ∧
      (tries = [] → result = .error (last.getD noModels)) := by
  induction todo generalizing last s with
  | nil =>
    have hresult : result = .error (last.getD noModels) ∧ s' = s := by
      cases last with
      | none => exact ⟨(Prod.mk.inj h).1.symm, (Prod.mk.inj h).2.symm⟩
      | some e => exact ⟨(Prod.mk.inj h).1.symm, (Prod.mk.inj h).2.symm⟩
    obtain ⟨rfl, rfl⟩ := hresult
    refine ⟨[], ?_, fun _ => rfl⟩
    constructor
    case asked => exact .nil
    case order => exact List.nil_prefix
    case attempts => exact (List.append_nil _).symm
    case failures => rfl
    case success => exact fun front _ _ _ heq => absurd heq (by simp)
    case fatal => exact fun front _ _ _ heq => absurd heq (by simp)
    case exhausted => exact fun front _ _ heq => absurd heq (by simp)
    case preferred => exact fun _ _ => rfl
    case answered => exact fun _ => rfl
  | cons candidate rest ih =>
    obtain ⟨route, index⟩ := candidate
    rw [tryRoutes] at h
    split at h
    next response world hcomplete =>
      obtain ⟨rfl, rfl⟩ := Prod.mk.inj h
      exact ⟨[⟨route, index, .ok response⟩],
        walk_single hcomplete rfl rfl rfl rfl (by rintro _ ⟨⟩), by rintro ⟨⟩⟩
    next e world hcomplete =>
      simp only at h
      split at h
      next hlimit =>
        obtain ⟨rfl, rfl⟩ := Prod.mk.inj h
        exact ⟨[⟨route, index, .error e⟩],
          walk_single hcomplete rfl rfl rfl rfl fun _ _ => .inr hlimit, by rintro ⟨⟩⟩
      next hlimit =>
        split at h
        next hretryable =>
          obtain ⟨tries, hwalk, hlast⟩ := ih h
          exact ⟨⟨route, index, .error e⟩ :: tries,
            hwalk.cons hcomplete hretryable (Nat.not_lt.mp hlimit) hlast, by rintro ⟨⟩⟩
        next hfatal =>
          obtain ⟨rfl, rfl⟩ := Prod.mk.inj h
          refine ⟨[⟨route, index, .error e⟩], walk_single hcomplete rfl rfl rfl rfl ?_, by rintro ⟨⟩⟩
          intro e' he
          obtain rfl := Except.error.inj he
          exact .inl (Bool.eq_false_iff.mpr hfatal)

-- ---------------------------------------------------------------------------
-- The calls of a router
-- ---------------------------------------------------------------------------

/-- The indices of the routes from the preferred one on, around the list. -/
def cyclic (routes preferred : Nat) : List Nat := (List.range routes).rotate preferred

theorem cyclic_nodup (routes preferred : Nat) : (cyclic routes preferred).Nodup :=
  List.nodup_rotate.mpr List.nodup_range

theorem ordered_cyclic {router : ModelRouter} {routes : List ModelRoute}
    (h : router.preferredRouteIndex ≤ routes.length) :
    (router.ordered routes).map Prod.snd = cyclic routes.length router.preferredRouteIndex := by
  have hsnd : routes.zipIdx.map Prod.snd = List.range routes.length := by
    rw [List.zipIdx_map_snd, List.range_eq_range']
  rw [ModelRouter.ordered, ← List.rotate_eq_drop_append_take (by rwa [List.length_zipIdx]),
    List.map_rotate, hsnd, cyclic]

theorem mem_ordered {router : ModelRouter} {routes : List ModelRoute}
    (h : (route, index) ∈ router.ordered routes) : routes[index]? = some route := by
  rw [ModelRouter.ordered] at h
  have hmem : (route, index) ∈ routes.zipIdx := by
    rcases List.mem_append.mp h with h | h
    · exact List.mem_of_mem_drop h
    · exact List.mem_of_mem_take h
  exact List.mem_zipIdx_iff_getElem?.mp hmem

/-- A call of `complete`, with the state it is made in. -/
structure Call (σ : Type) where
  state : State σ
  tools : List Json

def Call.result (env : Environment σ) (config : InvestigationConfig) (c : Call σ) :
    Except ProviderError ProviderResponse := (complete env config c.tools c.state).1

def Call.after (env : Environment σ) (config : InvestigationConfig) (c : Call σ) : State σ :=
  (complete env config c.tools c.state).2

/-- Calls of one router, one after the other, up to the first that raises. What
is not the router may change in between. -/
inductive Session (env : Environment σ) (config : InvestigationConfig) :
    ModelRouter → List (Call σ) → Prop
  | start : Session env config newRouter []
  | call : Session env config router calls → (∀ c ∈ calls, (c.result env config).isOk = true) →
      c.state.router = router → Session env config (c.after env config).router (calls ++ [c])

/-- What a call does. -/
structure Fallback (env : Environment σ) (config : InvestigationConfig) (c : Call σ)
    (tries : List Try) : Prop where
  asked : Asked env c.state.messages c.tools c.state.world tries (c.after env config).world
  routes : ∀ t ∈ tries, config.models[t.index]? = some t.route
  order : tries.map Try.index <+:
    cyclic config.models.length c.state.router.preferredRouteIndex
  once : (tries.map Try.index).Nodup
  attempts : (c.after env config).router.attempts =
    c.state.router.attempts ++ tries.map Try.attempt
  failures : (c.after env config).router.failures =
    c.state.router.failures + Investigation.failures (outcomes tries)
  success : ∀ front t rest response, tries = front ++ t :: rest → t.outcome = .ok response →
    rest = [] ∧ c.result env config = .ok response ∧
      (c.after env config).router.preferredRouteIndex = t.index
  fatal : ∀ front t rest e, tries = front ++ t :: rest → t.outcome = .error e →
    (e.retryable = false ∨
      config.budget.maxProviderFailures < c.state.router.failures + front.length + 1) →
        rest = [] ∧ c.result env config = .error e
  exhausted : ∀ front t e, tries = front ++ [t] → t.outcome = .error e → e.retryable = true →
    c.state.router.failures + front.length + 1 ≤ config.budget.maxProviderFailures →
      c.result env config = .error e ∧ tries.length = config.models.length
  raised : ∀ e, c.result env config = .error e →
    (c.after env config).router.preferredRouteIndex = c.state.router.preferredRouteIndex
  none : tries = [] → config.models = [] ∧ c.result env config = .error noModels

section
variable {env : Environment σ} {config : InvestigationConfig}

theorem call_fallback {c : Call σ}
    (h : c.state.router.preferredRouteIndex ≤ config.models.length) :
    ∃ tries, Fallback env config c tries := by
  obtain ⟨tries, hwalk, hlast⟩ := tryRoutes_walk (Prod.mk.eta (p := complete env config c.tools
    c.state)).symm
  have hlength : (c.state.router.ordered config.models).length = config.models.length := by
    rw [← List.length_map (f := Prod.snd), ordered_cyclic h, cyclic, List.length_rotate,
      List.length_range]
  have horder : tries.map Try.index <+:
      cyclic config.models.length c.state.router.preferredRouteIndex := by
    have hmap := hwalk.order.map Prod.snd
    rwa [List.map_map, ordered_cyclic h] at hmap
  refine ⟨tries, ?_⟩
  constructor
  case asked => exact hwalk.asked
  case routes =>
    intro t ht
    exact mem_ordered (hwalk.order.subset (List.mem_map_of_mem ht))
  case order => exact horder
  case once => exact horder.sublist.nodup (cyclic_nodup _ _)
  case attempts => exact hwalk.attempts
  case failures => exact hwalk.failures
  case success => exact hwalk.success
  case fatal => exact hwalk.fatal
  case exhausted => exact hlength ▸ hwalk.exhausted
  case raised => exact hwalk.preferred
  case none =>
    intro hnil
    have htodo := hwalk.answered hnil
    rw [htodo] at hlength
    exact ⟨List.length_eq_zero_iff.mp hlength.symm, hlast hnil⟩

/-- The failures of a call that starts within the limit. -/
theorem call_failures {c : Call σ}
    (h : c.state.router.failures ≤ config.budget.maxProviderFailures) :
    (c.after env config).router.failures ≤ config.budget.maxProviderFailures + 1 ∧
      ((c.result env config).isOk = true →
        (c.after env config).router.failures ≤ config.budget.maxProviderFailures) := by
  obtain ⟨world, router, log, hafter, hlog⟩ := tryRoutes_spec (Prod.mk.eta (p := complete env config
    c.tools c.state)).symm
  have hrouter : (c.after env config).router = router := congrArg State.router hafter
  have hcounted := hlog.counted
  rw [hrouter]
  constructor
  · rcases hlog.ends with hone | hle
    · omega
    · exact hle
  · intro hok
    rcases hlog.continues hok with hzero | hle
    · omega
    · exact hle

/-- What the calls of a router leave in it. -/
structure SessionAccounts (env : Environment σ) (config : InvestigationConfig)
    (router : ModelRouter) (calls : List (Call σ)) (tries : List (List Try)) : Prop where
  fallbacks : List.Forall₂ (Fallback env config) calls tries
  attempts : router.attempts = tries.flatten.map Try.attempt
  counted : router.failures = failures (outcomes tries.flatten)
  bounded : router.failures ≤ config.budget.maxProviderFailures + 1
  each : ∀ c ∈ calls, (c.after env config).router.failures ≤ config.budget.maxProviderFailures + 1
  within : (∀ c ∈ calls, (c.result env config).isOk = true) →
    router.failures ≤ config.budget.maxProviderFailures
  preferred : router.preferredRouteIndex ≤ config.models.length

/-- The route of the last try is preferred, or the one that was. -/
theorem Fallback.preferred {c : Call σ} (h : Fallback env config c tries)
    (hpreferred : c.state.router.preferredRouteIndex ≤ config.models.length) :
    (c.after env config).router.preferredRouteIndex ≤ config.models.length := by
  cases hresult : c.result env config with
  | error e =>
    rw [h.raised e hresult]
    exact hpreferred
  | ok response =>
    rcases List.eq_nil_or_concat' tries with hnil | ⟨front, t, htries⟩
    · rw [(h.none hnil).2] at hresult
      contradiction
    · cases houtcome : t.outcome with
      | ok response =>
        obtain ⟨-, -, hindex⟩ := h.success front t [] response htries houtcome
        have hroute := h.routes t (htries ▸ List.mem_append_right _ (List.mem_singleton_self t))
        rw [hindex]
        exact (List.getElem?_eq_some_iff.mp hroute).1.le
      | error e =>
        have herror : c.result env config = .error e := by
          by_cases hstop : e.retryable = false ∨
              config.budget.maxProviderFailures < c.state.router.failures + front.length + 1
          · exact (h.fatal front t [] e htries houtcome hstop).2
          · rw [not_or, Bool.not_eq_false, Nat.not_lt] at hstop
            exact (h.exhausted front t e htries houtcome hstop.1 hstop.2).1
        rw [hresult] at herror
        contradiction

theorem router_fallback (h : Session env config router calls) :
    ∃ tries, SessionAccounts env config router calls tries := by
  induction h with
  | start =>
    exact ⟨[], .nil, rfl, rfl, Nat.zero_le _, nofun, fun _ => Nat.zero_le _, Nat.zero_le _⟩
  | call hsession hreturned hrouter ih =>
    rename_i c
    obtain ⟨before, haccounts⟩ := ih
    have hpreferred : c.state.router.preferredRouteIndex ≤ config.models.length :=
      hrouter ▸ haccounts.preferred
    have hwithin : c.state.router.failures ≤ config.budget.maxProviderFailures :=
      hrouter ▸ haccounts.within hreturned
    obtain ⟨tries, hfallback⟩ : ∃ tries, Fallback env config c tries := call_fallback hpreferred
    have hfailures : (c.after env config).router.failures ≤
          config.budget.maxProviderFailures + 1 ∧
        ((c.result env config).isOk = true →
          (c.after env config).router.failures ≤ config.budget.maxProviderFailures) :=
      call_failures hwithin
    obtain ⟨hbounded, hok⟩ := hfailures
    have hflatten : (before ++ [tries]).flatten = before.flatten ++ tries := by
      rw [List.flatten_append, List.flatten_singleton]
    refine ⟨before ++ [tries], ?_⟩
    constructor
    case fallbacks => exact List.rel_append haccounts.fallbacks (.cons hfallback .nil)
    case attempts =>
      rw [hfallback.attempts, hrouter, haccounts.attempts, hflatten, List.map_append]
    case counted =>
      rw [hfallback.failures, hrouter, haccounts.counted, hflatten, outcomes, outcomes, outcomes,
        List.map_append, failures_append]
    case bounded => exact hbounded
    case each =>
      intro c' hc'
      rcases List.mem_append.mp hc' with hc' | hc'
      · exact haccounts.each c' hc'
      · rw [List.mem_singleton.mp hc']
        exact hbounded
    case within =>
      exact fun hall => hok (hall c (List.mem_append_right _ (List.mem_singleton_self c)))
    case preferred => exact hfallback.preferred hpreferred

end

namespace Sample

def routes : InvestigationConfig :=
  { config with
    models := [⟨"primary"⟩, ⟨"secondary"⟩]
    budget := { config.budget with maxProviderFailures := 1 } }

/-- The primary model is rate limited. -/
def limited : Environment Nat where
  bindSources := bindSources
  complete route _ _ asked :=
    (if route.model = "primary" then .error ⟨"rate_limited", "rate limited", true⟩
      else .ok queryResponse, asked + 1)
  invoke _ asked := (.error (.gatewayError "no tool"), asked)

def firstCall : Call Nat := ⟨startState newRouter 0 [], []⟩

/-- The second call starts where the first one has answered. -/
def secondCall : Call Nat := ⟨firstCall.after limited routes, []⟩

end Sample

theorem router_fallback_sample : ∃ tries, SessionAccounts Sample.limited Sample.routes
    (Sample.secondCall.after Sample.limited Sample.routes).router
    [Sample.firstCall, Sample.secondCall] tries := by
  have hfirst : Session Sample.limited Sample.routes
      (Sample.firstCall.after Sample.limited Sample.routes).router [Sample.firstCall] :=
    .call .start nofun rfl
  have hreturned : ∀ c ∈ [Sample.firstCall],
      (c.result Sample.limited Sample.routes).isOk = true := by
    intro c hc
    rw [List.mem_singleton.mp hc]
    decide +kernel
  exact router_fallback (.call hfirst hreturned rfl)

end Paic.Investigation
