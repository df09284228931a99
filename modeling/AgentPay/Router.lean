import AgentPay.ServiceKeys
import AgentPay.Support.Machine

/-!
# The payment router

`router.py`. `for_payment` and `provider_id_for` look a registration up by merchant domain and
currency, and the service charges through the first of them; the four operations of the router
itself all go to the first registration, whatever their currency and whoever charged the payment.
-/

namespace AgentPay

open Support

/-- `ProviderRoute`; an empty set does not constrain. -/
structure ProviderRoute (ρ : Type*) where
  providerId : String
  provider : ρ
  merchantDomains : List String := []
  currencies : List String := []
  deriving DecidableEq, Repr

/-- `matches` -/
def ProviderRoute.matches {ρ : Type*} (route : ProviderRoute ρ)
    (merchantDomain currency : String) : Bool :=
  let domainOk := route.merchantDomains.isEmpty || route.merchantDomains.contains merchantDomain
  let currencyOk := route.currencies.isEmpty || route.currencies.contains currency
  domainOk && currencyOk

/-- `PaymentRouter`: the registrations in order, no two with one id, which is all that `_by_id` is
asked. -/
structure PaymentRouter (ρ : Type*) where
  routes : List (ProviderRoute ρ)
  byId : (routes.map (·.providerId)).Nodup

/-- The arguments of a provider operation, and which of the four it is. -/
structure RouterCall where
  operation : OperationType
  paymentId : String
  amountMinor : ℤ
  currency : String
  idempotencyKey : String
  deriving DecidableEq, Repr

/-- The `ProviderRoutingError` of a lookup; `pyRepr` is Python's `repr`. -/
def noRoute (pyRepr : String → String) (merchantDomain currency : String) : Error :=
  .valueError ("no payment provider route for domain=" ++ pyRepr merchantDomain ++ ", currency=" ++
    pyRepr currency)

namespace PaymentRouter

variable {ρ : Type*} (pyRepr : String → String)

/-- `__init__` -/
def empty : PaymentRouter ρ := ⟨[], List.nodup_nil⟩

/-- `register` -/
def register (r : PaymentRouter ρ) (route : ProviderRoute ρ) :
    Except Error (PaymentRouter ρ) :=
  if h : route.providerId ∈ r.routes.map (·.providerId) then
    .error (.valueError ("provider already registered: " ++ route.providerId))
  else
    .ok ⟨r.routes ++ [route], by
      rw [List.map_append, List.nodup_append]
      simpa [r.byId] using h⟩

/-- `for_payment` -/
def forPayment (r : PaymentRouter ρ) (merchantDomain currency : String) : Except Error ρ :=
  match r.routes.find? (·.matches merchantDomain currency) with
  | some route => .ok route.provider
  | none => .error (noRoute pyRepr merchantDomain currency)

/-- `provider_id_for` -/
def providerIdFor (r : PaymentRouter ρ) (merchantDomain currency : String) :
    Except Error String :=
  match r.routes.find? (·.matches merchantDomain currency) with
  | some route => .ok route.providerId
  | none => .error (noRoute pyRepr merchantDomain currency)

/-- The provider registered first. -/
def firstProvider : List (ProviderRoute ρ) → Except Error ρ
  | []         => .error (.valueError "no payment providers registered")
  | route :: _ => .ok route.provider

/-- `_provider`, whatever the payment. -/
def provider (r : PaymentRouter ρ) (_paymentId : String) : Except Error ρ := firstProvider r.routes

/-- `charge`, `capture`, `void` and `refund`: the provider that the call is passed on to. -/
def passOn (r : PaymentRouter ρ) (call : RouterCall) : Except Error ρ := r.provider call.paymentId

/-! ### Lookups -/

end PaymentRouter

/-- Each set of the registration that is not empty contains what is asked for. -/
structure ProviderRoute.Admits {ρ : Type*} (route : ProviderRoute ρ)
    (merchantDomain currency : String) : Prop where
  domain : route.merchantDomains ≠ [] → merchantDomain ∈ route.merchantDomains
  currency : route.currencies ≠ [] → currency ∈ route.currencies

lemma ProviderRoute.matches_iff {ρ : Type*} {route : ProviderRoute ρ}
    {merchantDomain currency : String} :
    route.matches merchantDomain currency = true ↔ route.Admits merchantDomain currency := by
  simp only [ProviderRoute.matches, Bool.and_eq_true, Bool.or_eq_true, List.isEmpty_iff,
    List.contains_iff_mem]
  constructor
  · rintro ⟨hdomain, hcurrency⟩
    exact ⟨hdomain.resolve_left, hcurrency.resolve_left⟩
  · rintro ⟨hdomain, hcurrency⟩
    exact ⟨or_iff_not_imp_left.mpr hdomain, or_iff_not_imp_left.mpr hcurrency⟩

namespace PaymentRouter

variable (pyRepr : String → String)

/-- The first registration that admits the domain and the currency. -/
def Selects (r : PaymentRouter ρ) (merchantDomain currency : String)
    (route : ProviderRoute ρ) : Prop :=
  route.Admits merchantDomain currency ∧ ∃ before after, r.routes = before ++ route :: after ∧
    ∀ earlier ∈ before, ¬ earlier.Admits merchantDomain currency

lemma find?_routes_eq_some {r : PaymentRouter ρ} {merchantDomain currency : String}
    {route : ProviderRoute ρ} :
    r.routes.find? (·.matches merchantDomain currency) = some route ↔
      r.Selects merchantDomain currency route := by
  rw [List.find?_eq_some_iff_append, Selects, ProviderRoute.matches_iff]
  simp only [Bool.not_eq_true', ← Bool.not_eq_true, ProviderRoute.matches_iff]

/-- Both lookups answer from the first registration that admits the domain and the currency, and
raise where there is none. -/
lemma lookup_cases (r : PaymentRouter ρ) (merchantDomain currency : String) :
    (∃ route, r.Selects merchantDomain currency route ∧
      r.forPayment pyRepr merchantDomain currency = .ok route.provider ∧
      r.providerIdFor pyRepr merchantDomain currency = .ok route.providerId) ∨
    ((∀ route ∈ r.routes, ¬ route.Admits merchantDomain currency) ∧
      r.forPayment pyRepr merchantDomain currency =
        .error (noRoute pyRepr merchantDomain currency) ∧
      r.providerIdFor pyRepr merchantDomain currency =
        .error (noRoute pyRepr merchantDomain currency)) := by
  rw [forPayment, providerIdFor]
  cases hfind : r.routes.find? (·.matches merchantDomain currency) with
  | some route => exact .inl ⟨route, find?_routes_eq_some.mp hfind, rfl, rfl⟩
  | none =>
    refine .inr ⟨fun route hroute hadmits => ?_, rfl, rfl⟩
    exact List.find?_eq_none.mp hfind route hroute (ProviderRoute.matches_iff.mpr hadmits)

/-! ### Registrations -/

/-- A registration is appended unless its id is taken. -/
lemma register_routes (r : PaymentRouter ρ) (route : ProviderRoute ρ) :
    ((r.register route).toOption.getD r).routes =
      if route.providerId ∈ r.routes.map (·.providerId) then r.routes
      else r.routes ++ [route] := by
  unfold register
  split_ifs <;> rfl

/-- What is registered first stays first. -/
lemma register_head? (r : PaymentRouter ρ) (route : ProviderRoute ρ) {first : ProviderRoute ρ}
    (h : r.routes.head? = some first) :
    ((r.register route).toOption.getD r).routes.head? = some first := by
  rw [register_routes]
  split_ifs
  · exact h
  · rw [List.head?_append, h]
    rfl

/-- The router's own operations go to what is registered first. -/
lemma passOn_eq_ok {r : PaymentRouter ρ} {call : RouterCall} {provider : ρ} :
    r.passOn call = .ok provider ↔ r.routes.head?.map (·.provider) = some provider := by
  rw [passOn, PaymentRouter.provider]
  cases r.routes <;> simp [firstProvider]

end PaymentRouter

/-! ### The service behind a router -/

namespace PaymentService

variable {s : PaymentService} {turn : ServiceTurn}

/-- A charge is sent only where `_provider_for` has found a provider. -/
lemma createPaymentWith_routed {charge : ServiceCharge}
    (h : (s.createPaymentWith turn).charge = some charge) : turn.route = .ok () := by
  cases hroute : turn.route with
  | ok => rfl
  | error e =>
    have hproceed (decision : Decision) : s.proceed turn decision = ⟨s, none, .error e⟩ := by
      simp only [proceed, hroute]
    simp only [createPaymentWith, hproceed] at h
    split at h
    · split_ifs at h
    · rw [remember_charge] at h
      split at h <;> cases h

/-- The charge of a call whose service has a router goes to the first registration that admits the
domain and the currency of the intent. -/
theorem createPaymentWith_selects {ρ : Type*} (pyRepr : String → String) (r : PaymentRouter ρ)
    {intent : ServiceIntent} {answer : ServiceCharge → Except Error ProviderOutcome}
    {charge : ServiceCharge} (h : (s.createPaymentWith ⟨intent,
      (r.forPayment pyRepr intent.merchantDomain intent.currency).map fun _ => (), answer⟩).charge =
        some charge) :
    ∃ route, r.Selects intent.merchantDomain intent.currency route ∧
      r.forPayment pyRepr intent.merchantDomain intent.currency = .ok route.provider := by
  have hroute := createPaymentWith_routed h
  rcases r.lookup_cases pyRepr intent.merchantDomain intent.currency with
    ⟨route, hselects, hprovider, -⟩ | ⟨-, hnone, -⟩
  · exact ⟨route, hselects, hprovider⟩
  · simp only [hnone] at hroute
    cases hroute

end PaymentService

/-! ### Runs -/

/-- A registration, a payment through the service behind the router, or an operation of the router
itself. -/
inductive RouterEvent (ρ : Type*) where
  | register (route : ProviderRoute ρ)
  | create (intent : ServiceIntent) (answer : ServiceCharge → Except Error ProviderOutcome)
  | operate (call : RouterCall)

/-- The provider that was charged for a payment, and whether the service charged it. -/
structure RoutedCharge (ρ : Type*) where
  paymentId : String
  provider : ρ
  byService : Bool
  deriving DecidableEq, Repr

/-- A router, the service behind it, and the charges so far. -/
structure RoutedService (ρ : Type*) where
  router : PaymentRouter ρ
  service : PaymentService
  charges : List (RoutedCharge ρ)

namespace RoutedService

variable {ρ : Type*} (pyRepr : String → String)

/-- Nothing is registered and nothing is charged. -/
def start (service : PaymentService) : RoutedService ρ := ⟨.empty, service, []⟩

/-- `create_payment` of the service, which selects its provider with `for_payment`. -/
def createPayment (s : RoutedService ρ) (intent : ServiceIntent)
    (answer : ServiceCharge → Except Error ProviderOutcome) : ServiceCall :=
  s.service.createPaymentWith ⟨intent,
    (s.router.forPayment pyRepr intent.merchantDomain intent.currency).map fun _ => (), answer⟩

/-- The charge that an event sends. -/
def charged (s : RoutedService ρ) : RouterEvent ρ → Option (RoutedCharge ρ)
  | .register _ => none
  | .create intent answer =>
    match (s.createPayment pyRepr intent answer).charge,
      s.router.forPayment pyRepr intent.merchantDomain intent.currency with
    | some charge, .ok provider => some ⟨charge.paymentId, provider, true⟩
    | _, _ => none
  | .operate call =>
    if call.operation = .charge then
      (s.router.passOn call).toOption.map (⟨call.paymentId, ·, false⟩)
    else none

def step (s : RoutedService ρ) (e : RouterEvent ρ) : RoutedService ρ where
  router :=
    match e with
    | .register route => (s.router.register route).toOption.getD s.router
    | _               => s.router
  service :=
    match e with
    | .create intent answer => (s.createPayment pyRepr intent answer).service
    | _                     => s.service
  charges := s.charges ++ (s.charged pyRepr e).toList

/-! ### The rules -/

/-- What is registered by the events, in their order. -/
def registrations (es : List (RouterEvent ρ)) : List (ProviderRoute ρ) :=
  es.filterMap fun
    | .register route => some route
    | _               => none

/-- A provider is registered on a route that takes the currency. -/
def Takes (s : RoutedService ρ) (provider : ρ) (currency : String) : Prop :=
  ∃ route ∈ s.router.routes, route.provider = provider ∧
    (route.currencies ≠ [] → currency ∈ route.currencies)

/-- What the routing rules ask of an event: a payment of the service is charged through the first
registration that admits its domain and currency. An operation of the router reaches a provider
whose route takes its currency, or raises, and a capture, void or refund reaches the provider that
was charged. -/
structure Follows (s : RoutedService ρ) (e : RouterEvent ρ) : Prop where
  create : ∀ intent answer, e = .create intent answer → ∀ charge ∈ s.charged pyRepr e,
    ∃ route, s.router.Selects intent.merchantDomain intent.currency route ∧
      charge.provider = route.provider
  takes : ∀ call, e = .operate call → ∀ provider, s.router.passOn call = .ok provider →
    s.Takes provider call.currency
  raises : ∀ call, e = .operate call →
    (∀ route ∈ s.router.routes, ¬ (route.currencies ≠ [] → call.currency ∈ route.currencies)) →
      ∃ error, s.router.passOn call = .error error
  charged : ∀ call, e = .operate call → call.operation ≠ .charge → ∀ charge ∈ s.charges,
    charge.paymentId = call.paymentId → s.router.passOn call = .ok charge.provider

/-- An operation of the router is in a currency that the provider registered first takes, and on no
payment that the service has charged through another provider. -/
structure Direct (s : RoutedService ρ) (e : RouterEvent ρ) : Prop where
  takes : ∀ call, e = .operate call → ∀ first ∈ s.router.routes.head?,
    s.Takes first.provider call.currency
  charged : ∀ call, e = .operate call → call.operation ≠ .charge → ∀ charge ∈ s.charges,
    charge.byService = true → charge.paymentId = call.paymentId →
      ∀ first ∈ s.router.routes.head?, first.provider = charge.provider

variable {s : RoutedService ρ}

/-- A charge was sent to some registered provider, and one of the router to the first. -/
def Anchored (s : RoutedService ρ) : Prop :=
  ∀ charge ∈ s.charges, ∃ first, s.router.routes.head? = some first ∧
    (charge.byService = false → first.provider = charge.provider)

/-- Where a charge goes. -/
lemma charged_cases {e : RouterEvent ρ} {charge : RoutedCharge ρ}
    (h : charge ∈ s.charged pyRepr e) :
    (∃ intent answer route, e = .create intent answer ∧ charge.byService = true ∧
      s.router.Selects intent.merchantDomain intent.currency route ∧
      charge.provider = route.provider) ∨
    ∃ call first, e = .operate call ∧ s.router.routes.head? = some first ∧
      first.provider = charge.provider := by
  cases e with
  | register => cases h
  | create intent answer =>
    simp only [charged, Option.mem_def] at h
    split at h
    · rename_i sent provider hsent hprovider
      obtain rfl := Option.some.inj h
      obtain ⟨route, hselects, hroute⟩ :=
        PaymentService.createPaymentWith_selects pyRepr s.router hsent
      obtain rfl := Except.ok.inj (hprovider.symm.trans hroute)
      exact .inl ⟨intent, answer, route, rfl, rfl, hselects, rfl⟩
    · cases h
  | operate call =>
    simp only [charged, Option.mem_def] at h
    split_ifs at h
    obtain ⟨provider, hprovider, rfl⟩ := Option.map_eq_some_iff.mp h
    have hpassed : s.router.passOn call = .ok provider := by
      cases hcall : s.router.passOn call with
      | error e => simp [hcall, Except.toOption] at hprovider
      | ok q => simpa [hcall, Except.toOption] using hprovider
    obtain ⟨first, hfirst, hprovider⟩ :=
      Option.map_eq_some_iff.mp (PaymentRouter.passOn_eq_ok.mp hpassed)
    exact .inr ⟨call, first, rfl, hfirst, hprovider⟩

lemma Anchored.step (h : s.Anchored) (e : RouterEvent ρ) : (s.step pyRepr e).Anchored := by
  have hhead : ∀ first, s.router.routes.head? = some first →
      (s.step pyRepr e).router.routes.head? = some first := by
    intro first hfirst
    cases e with
    | register route => exact s.router.register_head? route hfirst
    | create | operate => exact hfirst
  intro charge hcharge
  rcases List.mem_append.mp hcharge with hcharge | hcharge
  · obtain ⟨first, hfirst, hprovider⟩ := h charge hcharge
    exact ⟨first, hhead first hfirst, hprovider⟩
  · rcases charged_cases pyRepr (Option.mem_toList.mp hcharge) with
      ⟨intent, answer, route, -, hservice, ⟨-, before, after, hroutes, -⟩, -⟩ |
      ⟨call, first, -, hfirst, hprovider⟩
    · have hsome : s.router.routes.head?.isSome := by simp [hroutes]
      obtain ⟨first, hfirst⟩ := Option.isSome_iff_exists.mp hsome
      refine ⟨first, hhead first hfirst, fun hrouter => ?_⟩
      cases hservice.symm.trans hrouter
    · exact ⟨first, hhead first hfirst, fun _ => hprovider⟩

/-- An event follows the rules exactly when it is direct. -/
lemma Anchored.follows_iff (h : s.Anchored) (e : RouterEvent ρ) :
    s.Follows pyRepr e ↔ s.Direct e := by
  constructor
  · intro hfollows
    constructor
    · rintro call rfl first hfirst
      refine hfollows.takes call rfl first.provider (PaymentRouter.passOn_eq_ok.mpr ?_)
      rw [hfirst]
      rfl
    · rintro call rfl hoperation charge hcharge - hpayment first hfirst
      have hpassed := hfollows.charged call rfl hoperation charge hcharge hpayment
      rw [PaymentRouter.passOn_eq_ok, Option.mem_def.mp hfirst] at hpassed
      exact Option.some.inj hpassed
  · intro hdirect
    have htakes : ∀ call, e = .operate call → ∀ provider, s.router.passOn call = .ok provider →
        s.Takes provider call.currency := by
      rintro call rfl provider hpassed
      obtain ⟨first, hfirst, rfl⟩ :=
        Option.map_eq_some_iff.mp (PaymentRouter.passOn_eq_ok.mp hpassed)
      exact hdirect.takes call rfl first hfirst
    constructor
    · rintro intent answer rfl charge hcharge
      rcases charged_cases pyRepr hcharge with
        ⟨intent', answer', route, he, -, hselects, hprovider⟩ | ⟨call, -, he, -⟩
      · cases he
        exact ⟨route, hselects, hprovider⟩
      · cases he
    · exact htakes
    · intro call he hnone
      cases hpassed : s.router.passOn call with
      | error error => exact ⟨error, rfl⟩
      | ok provider =>
        obtain ⟨route, hroute, -, hcurrency⟩ := htakes call he provider hpassed
        exact absurd hcurrency (hnone route hroute)
    · intro call he hoperation charge hcharge hpayment
      obtain ⟨first, hfirst, hrouter⟩ := h charge hcharge
      rw [PaymentRouter.passOn_eq_ok, hfirst]
      cases hservice : charge.byService with
      | false => exact congrArg some (hrouter hservice)
      | true =>
        exact congrArg some (hdirect.charged call he hoperation charge hcharge hservice hpayment
          first hfirst)

/-- The registrations that are accepted stand in the order they were asked for. -/
lemma run_routes (service : PaymentService) (es : List (RouterEvent ρ)) :
    (Machine.run (step pyRepr) (start service) es).router.routes.Sublist (registrations es) := by
  induction es using List.reverseRecOn with
  | nil => exact List.nil_sublist _
  | append_singleton es e ih =>
    rw [Machine.run_concat, registrations, List.filterMap_append]
    cases e with
    | register route =>
      show ((PaymentRouter.register _ route).toOption.getD _).routes.Sublist _
      rw [PaymentRouter.register_routes]
      split_ifs
      · exact ih.trans (List.sublist_append_left _ _)
      · exact ih.append_right [route]
    | create | operate => exact ih.trans (List.sublist_append_left _ _)

/-- After any registrations, payments of the service and operations of the router, in any order,
both lookups select the first registration that admits the domain and the currency, and raise
exactly where there is none. The charges of the service and the operations of the router follow the
rules exactly when the operations of the router are direct. -/
theorem run_follows_iff (service : PaymentService) (es : List (RouterEvent ρ)) :
    let s := Machine.run (step pyRepr) (start service) es
    s.router.routes.Sublist (registrations es) ∧
    (∀ merchantDomain currency,
      (∃ route, s.router.Selects merchantDomain currency route ∧
        s.router.forPayment pyRepr merchantDomain currency = .ok route.provider ∧
        s.router.providerIdFor pyRepr merchantDomain currency = .ok route.providerId) ∨
      ((∀ route ∈ s.router.routes, ¬ route.Admits merchantDomain currency) ∧
        s.router.forPayment pyRepr merchantDomain currency =
          .error (noRoute pyRepr merchantDomain currency) ∧
        s.router.providerIdFor pyRepr merchantDomain currency =
          .error (noRoute pyRepr merchantDomain currency))) ∧
    (Machine.Along (step pyRepr) (Follows pyRepr) (start service) es ↔
      Machine.Along (step pyRepr) Direct (start service) es) := by
  refine ⟨run_routes pyRepr service es, fun _ _ => PaymentRouter.lookup_cases _ _ _ _, ?_⟩
  apply Machine.Along.congr (P := fun _ _ => True) (I := Anchored) ?_ ?_ ?_
    (Machine.along_of_forall (fun _ _ => trivial) _ _)
  · exact fun s e hs _ _ => hs.step pyRepr e
  · exact fun s e hs _ => hs.follows_iff pyRepr e
  · intro charge hcharge
    cases hcharge

/-! ### Operations that leave the routes -/

/-- `repr` of a text of plain characters. -/
def plainRepr (s : String) : String := "'" ++ s ++ "'"

/-- One wallet, for USD. -/
def usdWallet : ProviderRoute String :=
  { providerId := "wallet-us", provider := "wallet", currencies := ["USD"] }

/-- An operation of the router. -/
def operation (type : OperationType) (paymentId currency : String) : RouterCall :=
  ⟨type, paymentId, 1000, currency, "key"⟩

/-- A rail for every merchant, behind one for another shop; the service pays through it. -/
def twoRails : List (RouterEvent String) :=
  [.register { providerId := "other", provider := "other", merchantDomains := ["other.example"] },
    .register { providerId := "rail", provider := "rail" },
    .create (.sample 10) fun _ => .ok .succeeded]

/-- A charge in EUR through the router reaches the wallet, which takes USD only; and a refund
through the router of a payment that the service has charged through the second rail reaches the
first. -/
theorem not_follows_unrouted :
    let start : RoutedService String := start .sample
    ¬ Machine.Along (step plainRepr) (Follows plainRepr) start
        [.register usdWallet, .operate (operation .charge "payment" "EUR")] ∧
      (Machine.run (step plainRepr) start twoRails).charges = [⟨"payment", "rail", true⟩] ∧
      (Machine.run (step plainRepr) start twoRails).router.passOn
        (operation .refund "payment" "USD") = .ok "other" ∧
      ¬ Machine.Along (step plainRepr) (Follows plainRepr) start
        (twoRails ++ [.operate (operation .refund "payment" "USD")]) := by
  intro start
  have hcharges : (Machine.run (step plainRepr) start twoRails).charges =
      [⟨"payment", "rail", true⟩] := by decide +kernel
  have hrefund : (Machine.run (step plainRepr) start twoRails).router.passOn
      (operation .refund "payment" "USD") = .ok "other" := by decide +kernel
  refine ⟨?_, hcharges, hrefund, ?_⟩
  · rintro ⟨-, hfollows, -⟩
    obtain ⟨route, hroute, -, htakes⟩ := hfollows.takes _ rfl "wallet" (by decide +kernel)
    obtain rfl := List.mem_singleton.mp hroute
    exact absurd (htakes (by decide)) (by decide)
  · intro h
    obtain ⟨-, hfollows, -⟩ := Machine.along_append.mp h
    have hcharge : (⟨"payment", "rail", true⟩ : RoutedCharge String) ∈
        (Machine.run (step plainRepr) start twoRails).charges := by
      rw [hcharges]
      exact List.mem_cons_self
    have hpassed := hfollows.charged _ rfl (by decide) _ hcharge rfl
    rw [hrefund] at hpassed
    exact absurd (Except.ok.inj hpassed) (by decide)

end RoutedService

end AgentPay
