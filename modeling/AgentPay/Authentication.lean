import AgentPay.Authority
import AgentPay.Approvals

/-!
# Authentication

`auth.py`, which the endpoints ask who is calling. The mode comes from the environment: a payment is
only ever asked for by the development principal, or by one that the identity provider has named,
and an approval is only ever decided in development mode.
-/

namespace AgentPay

open Support

/-! ### The modes -/

/-- The claims of a bearer token that are read: an identity claim is `none` where it is not a
string, and so is `scope`, which is empty where it is absent. -/
structure BearerClaims where
  agentId : Option String
  accountId : Option String
  scope : Option String
  deriving DecidableEq, Repr

/-- The environment that `auth.py` reads. `decode` is `jwt.decode` of a token under the keys at a
URL, for an audience and an issuer, `none` where it raises. -/
structure AuthConfig where
  getenv : String → Option String
  decode : (jwksUrl audience issuer token : String) → Option BearerClaims

namespace AuthConfig

variable (config : AuthConfig)

/-- `AGENT_PAY_AUTH_MODE` -/
def mode : String := (config.getenv "AGENT_PAY_AUTH_MODE").getD "strict"

/-- A variable that is set and not empty. -/
def setting (name : String) : Option String := (config.getenv name).bind orNone

/-- `_oidc_principal` -/
def oidcPrincipal (token : String) : Except Error Principal :=
  match config.setting "AGENT_PAY_OIDC_JWKS_URL", config.setting "AGENT_PAY_OIDC_ISSUER",
      config.setting "AGENT_PAY_OIDC_AUDIENCE" with
  | some jwksUrl, some issuer, some audience =>
    match config.decode jwksUrl audience issuer token with
    | none => .error (.permissionError "invalid OIDC bearer token")
    | some claims =>
      match claims.agentId, claims.accountId with
      | some agentId, some accountId =>
        .ok ⟨agentId, accountId, (claims.scope.map splitWords).getD []⟩
      | _, _ => .error (.permissionError "OIDC token is missing Agent-Pay identity claims")
  | _, _, _ => .error (.permissionError "OIDC authentication is not fully configured")

/-- `resolve_bearer` -/
def resolveBearer (token : String) : Except Error Principal :=
  if token = "" then .error (.permissionError "bearer token is required")
  else if config.mode = "development" then
    if token ≠ (config.getenv "AGENT_PAY_DEV_TOKEN").getD "local-agent-token" then
      .error (.permissionError "invalid development bearer token")
    else
      match config.setting "AGENT_PAY_DEV_AGENT_ID", config.setting "AGENT_PAY_DEV_ACCOUNT_ID" with
      | some agentId, some accountId =>
        .ok ⟨agentId, accountId, ["payments:create", "payments:read"]⟩
      | _, _ => .error (.permissionError "development principal is not configured")
  else if config.mode = "oidc" then config.oidcPrincipal token
  else .error (.permissionError "production authentication adapter is not configured")

/-- `resolve_approval_bearer` -/
def resolveApprovalBearer (token : Option String) : Except Error String :=
  if config.mode ≠ "development" then
    .error (.permissionError "production approval authentication adapter is not configured")
  else if token ≠ some ((config.getenv "AGENT_PAY_APPROVAL_TOKEN").getD "local-approval-token") then
    .error (.permissionError "invalid development approval bearer token")
  else .ok ((config.getenv "AGENT_PAY_APPROVAL_ACTOR").getD "local-user")

/-- The endpoints with this authentication. -/
def install (env : Env) : Env :=
  { env with
    resolveBearer := config.resolveBearer
    resolveApprovalBearer := config.resolveApprovalBearer }

/-! ### Who may create -/

/-- A token that lets an agent of an account create payments: the development token, for the one
principal that is configured, or a token that the identity provider has issued to the agent. -/
inductive Admits (token agentId accountId : String) : Prop
  | development (hmode : config.mode = "development")
      (htoken : token = (config.getenv "AGENT_PAY_DEV_TOKEN").getD "local-agent-token")
      (hagent : config.setting "AGENT_PAY_DEV_AGENT_ID" = some agentId)
      (haccount : config.setting "AGENT_PAY_DEV_ACCOUNT_ID" = some accountId)
  | oidc (hmode : config.mode = "oidc") {jwksUrl issuer audience : String}
      (hjwks : config.setting "AGENT_PAY_OIDC_JWKS_URL" = some jwksUrl)
      (hissuer : config.setting "AGENT_PAY_OIDC_ISSUER" = some issuer)
      (haudience : config.setting "AGENT_PAY_OIDC_AUDIENCE" = some audience)
      {scope : String}
      (hclaims : config.decode jwksUrl audience issuer token =
        some ⟨some agentId, some accountId, some scope⟩)
      (hscope : "payments:create" ∈ splitWords scope)

variable {config} {token agentId accountId : String}

lemma requireAgent_eq_ok {principal : Principal} :
    requireAgent principal agentId accountId = .ok () ↔
      principal.agentId = agentId ∧ principal.accountId = accountId ∧
        "payments:create" ∈ principal.scopes := by
  rw [requireAgent]
  constructor
  · intro h
    obtain ⟨⟨⟩, hsame, hscope⟩ := Except.bind_eq_ok.mp h
    rw [require_eq_ok, Bool.and_eq_true, decide_eq_true_eq, decide_eq_true_eq] at hsame
    rw [require_eq_ok, decide_eq_true_eq] at hscope
    exact ⟨hsame.1, hsame.2, hscope⟩
  · rintro ⟨rfl, rfl, hscope⟩
    refine Except.bind_eq_ok.mpr ⟨(), require_eq_ok.mpr (by simp), require_eq_ok.mpr ?_⟩
    exact decide_eq_true hscope

lemma oidcPrincipal_eq_ok {principal : Principal} :
    config.oidcPrincipal token = .ok principal ↔
      ∃ jwksUrl issuer audience scope, config.setting "AGENT_PAY_OIDC_JWKS_URL" = some jwksUrl ∧
        config.setting "AGENT_PAY_OIDC_ISSUER" = some issuer ∧
        config.setting "AGENT_PAY_OIDC_AUDIENCE" = some audience ∧
        config.decode jwksUrl audience issuer token =
          some ⟨some principal.agentId, some principal.accountId, scope⟩ ∧
        principal.scopes = (scope.map splitWords).getD [] := by
  rw [oidcPrincipal]
  constructor
  · intro h
    split at h
    · rename_i jwksUrl issuer audience hjwks hissuer haudience
      split at h
      · cases h
      · rename_i claims hclaims
        obtain ⟨agentId, accountId, scope⟩ := claims
        split at h
        · rename_i hagent haccount
          obtain rfl := Except.ok.inj h
          obtain rfl : agentId = _ := hagent
          obtain rfl : accountId = _ := haccount
          exact ⟨jwksUrl, issuer, audience, scope, hjwks, hissuer, haudience, hclaims, rfl⟩
        · cases h
    · cases h
  · rintro ⟨jwksUrl, issuer, audience, scope, hjwks, hissuer, haudience, hclaims, hscopes⟩
    simp only [hjwks, hissuer, haudience, hclaims, ← hscopes]

/-- A token passes the two checks of `create_payment` exactly when it admits the agent. -/
lemma admits_iff : (∃ principal, config.resolveBearer token = .ok principal ∧
    requireAgent principal agentId accountId = .ok ()) ↔
      token ≠ "" ∧ config.Admits token agentId accountId := by
  simp only [requireAgent_eq_ok, resolveBearer]
  constructor
  · rintro ⟨principal, hresolve, rfl, rfl, hscope⟩
    split_ifs at hresolve with htoken hmode hexpected hoidc
    · refine ⟨htoken, ?_⟩
      split at hresolve
      · rename_i hagent haccount
        obtain rfl := Except.ok.inj hresolve
        exact .development hmode (not_not.mp hexpected) hagent haccount
      · cases hresolve
    · refine ⟨htoken, ?_⟩
      obtain ⟨jwksUrl, issuer, audience, scope, hjwks, hissuer, haudience, hclaims, hscopes⟩ :=
        oidcPrincipal_eq_ok.mp hresolve
      rw [hscopes] at hscope
      cases scope with
      | none => cases hscope
      | some scope => exact .oidc hoidc hjwks hissuer haudience hclaims hscope
  · rintro ⟨htoken, hadmits⟩
    cases hadmits with
    | development hmode hexpected hagent haccount =>
      refine ⟨⟨agentId, accountId, ["payments:create", "payments:read"]⟩, ?_, rfl, rfl, by simp⟩
      rw [if_neg htoken, if_pos hmode, if_neg (not_not.mpr hexpected)]
      simp only [hagent, haccount]
    | @oidc hmode jwksUrl issuer audience hjwks hissuer haudience scope hclaims hscope =>
      refine ⟨⟨agentId, accountId, splitWords scope⟩, ?_, rfl, rfl, hscope⟩
      have hproduction : config.mode ≠ "development" := by
        rw [hmode]
        decide
      rw [if_neg htoken, if_neg hproduction, if_pos hmode]
      exact oidcPrincipal_eq_ok.mpr
        ⟨jwksUrl, issuer, audience, some scope, hjwks, hissuer, haudience, hclaims, rfl⟩

/-- Nobody else gets past the first checks of `create_payment`. -/
lemma openPayment_admits {env : Env} {now : Time} {db : Db} {call : CreateCall} {i : Intake}
    (h : openPayment (config.install env) now db call = .intake i) :
    ∃ token ∈ bearerToken call.authorization,
      config.Admits token call.request.agentId call.request.accountId := by
  simp only [openPayment] at h
  split at h
  · cases h
  rename_i key evidence hcheck
  split at h
  · cases h
  split at h
  · cases h
  simp only [checkCall] at hcheck
  split at hcheck
  · cases hcheck
  split_ifs at hcheck
  obtain ⟨⟨⟩, hauth, -⟩ := Except.bind_eq_ok.mp hcheck
  simp only [authenticateAgent] at hauth
  split at hauth
  · cases hauth
  rename_i token htoken
  obtain ⟨principal, hprincipal, hagent⟩ :=
    Except.bind_eq_ok.mp (onPermissionError_eq_ok.mp hauth)
  exact ⟨token, htoken, (admits_iff.mp ⟨principal, hprincipal, hagent⟩).2⟩

/-- In no other mode is a token admitted. -/
lemma Admits.mode (h : config.Admits token agentId accountId) :
    config.mode = "development" ∨ config.mode = "oidc" := by
  cases h with
  | development hmode => exact .inl hmode
  | oidc hmode => exact .inr hmode

/-- Without the development mode nobody decides an approval. -/
lemma resolveApprovalBearer_raises (hmode : config.mode ≠ "development") (token : Option String) :
    config.resolveApprovalBearer token = .error
      (.permissionError "production approval authentication adapter is not configured") :=
  if_pos hmode

end AuthConfig

/-! ### Runs -/

/-- The request is the one that a call asks for. -/
structure CreateCall.Opens (env : Env) (call : CreateCall) (request : PaymentRequest) : Prop where
  agent : call.request.agentId = request.agentId
  account : call.request.accountId = request.accountId
  key : call.idempotencyKey = some request.idempotencyKey
  amount : call.request.amount.decimal.units = request.amount.toDecimal.units
  currency : call.request.currency = request.currency
  fingerprint : request.requestFingerprint = some (requestFingerprint env call.request)

/-- The request of a payment, and the call of the run that it was created from. -/
lemma State.run_requested {env : Env} {db : Db} (hfresh : db.Fresh) {as : List Action}
    {p : PaymentId} {payment : Payment}
    (hpayment : (Machine.run (State.step env) (.start db) as).db.payments.get? p = some payment) :
    ∃ request opened call i earlier,
      (Machine.run (State.step env) (.start db) as).db.paymentRequests.get?
        payment.paymentRequestId = some request ∧
      .openPayment opened call ∈ as ∧ openPayment env opened earlier call = .intake i ∧
      call.Opens env request := by
  have hstart : ¬ ((State.start db).db.payments.get? p).isSome := by
    have hnone : (State.start db).db.payments.get? p = none :=
      Table.get?_of_rows_nil hfresh.payments p
    rw [hnone]
    exact Bool.false_ne_true
  obtain ⟨bs, a, after, rfl, hbefore, hafter⟩ :=
    Machine.exists_step (P := fun s : State => (s.db.payments.get? p).isSome) hstart
      (show (Machine.run (State.step env) (.start db) as |>.db.payments.get? p).isSome by
        rw [hpayment]; rfl)
  set t := Machine.run (State.step env) (.start db) bs with ht
  obtain ⟨created, hcreated⟩ := Option.isSome_iff_exists.mp hafter
  obtain ⟨c, now, i, v, amount, merchantId, rfl, hcreation, rfl, -, hcommits, -⟩ :=
    State.step_creates (Option.not_isSome_iff_eq_none.mp hbefore) hcreated
  -- its rows, then and now
  have hfirst := (Table.get?_of_rows_append hcommits.payments t.db.payments.nextId).trans
    (if_pos rfl)
  have hfirstRequest := (Table.get?_of_rows_append hcommits.requests
    t.db.paymentRequests.nextId).trans (if_pos rfl)
  obtain ⟨payment', hpayment', hterms⟩ := State.run_row
    (fun db => db.payments.get? t.db.payments.nextId)
    (fun _ c _ hp => State.step_payment hp c) hfirst after
  obtain ⟨request, hrequest, horder⟩ := State.run_order hfirstRequest after
  rw [Machine.run_append, Machine.run_cons, ← ht] at hpayment ⊢
  obtain rfl := Option.some.inj (hpayment.symm.trans hpayment')
  simp only [Payment.terms, Prod.mk.injEq] at hterms
  have hid : payment.paymentRequestId = t.db.paymentRequests.nextId := hterms.1
  simp only [PaymentRequest.order, PaymentRequest.mk.injEq] at horder
  obtain ⟨haccount, hagent, -, hamount, hcurrency, hkey, hfingerprint, -⟩ := horder
  obtain ⟨before, opened, call, between, rfl, hopen⟩ := run_opened (ht ▸ hcreation)
  obtain ⟨hasked, hcallKey, hcallFingerprint⟩ := openPayment_intake hopen
  refine ⟨request, opened, call, i, _, hid ▸ hrequest, by simp, hopen, ?_⟩
  have hunits : request.amount.toDecimal.units = i.request.amount.decimal.units :=
    hamount ▸ Money.units_store hcommits.stored
  exact
    { agent := hasked ▸ hagent.symm
      account := hasked ▸ haccount.symm
      key := hkey ▸ hcallKey
      amount := hasked ▸ hunits.symm
      currency := hasked ▸ hcurrency.symm
      fingerprint := hcallFingerprint ▸ hfingerprint }

/-- In every run, whatever is interleaved, the request of a payment is the one that a call of the
run asks for, key and all, and the token of the call admits its agent and account. So outside the
two modes there is no payment, and in development mode they are all the configured principal's. -/
theorem run_authenticated {config : AuthConfig} {env : Env} {db : Db} (hfresh : db.Fresh)
    (as : List Action) :
    let s := Machine.run (State.step (config.install env)) (.start db) as
    ∀ p payment, s.db.payments.get? p = some payment → ∃ request opened call token,
      s.db.paymentRequests.get? payment.paymentRequestId = some request ∧
      .openPayment opened call ∈ as ∧ token ∈ bearerToken call.authorization ∧
      config.Admits token request.agentId request.accountId ∧
      call.Opens (config.install env) request := by
  intro s p payment hpayment
  obtain ⟨request, opened, call, i, earlier, hrequest, hmem, hopen, hopens⟩ :=
    State.run_requested hfresh hpayment
  obtain ⟨token, htoken, hadmits⟩ := AuthConfig.openPayment_admits hopen
  rw [hopens.agent, hopens.account] at hadmits
  exact ⟨request, opened, call, token, hrequest, hmem, htoken, hadmits, hopens⟩

/-- An identity provider that has issued one token. -/
def AuthConfig.sample : AuthConfig where
  getenv name :=
    [("AGENT_PAY_AUTH_MODE", "oidc"), ("AGENT_PAY_OIDC_JWKS_URL", "keys"),
      ("AGENT_PAY_OIDC_ISSUER", "issuer"), ("AGENT_PAY_OIDC_AUDIENCE", "audience")].lookup name
  decode _ _ _ token :=
    if token = "token" then
      some ⟨some "agent", some "account", some "payments:read payments:create"⟩
    else none

/-- A payment of 60 USD is created under it. -/
theorem run_authenticated_oidc :
    let s := Machine.run (State.step (AuthConfig.sample.install .sample))
      (.start (.sample [.asking])) (Action.create 0 900 (.sample "key" 60))
    ∃ payment, s.db.payments.get? 0 = some payment ∧ ∃ request opened call token,
      s.db.paymentRequests.get? payment.paymentRequestId = some request ∧
      .openPayment opened call ∈ Action.create 0 900 (.sample "key" 60) ∧
      token ∈ bearerToken call.authorization ∧
      AuthConfig.sample.Admits token request.agentId request.accountId ∧
      call.Opens (AuthConfig.sample.install .sample) request := by
  intro s
  have hcreated : (s.db.payments.get? 0).isSome = true := by decide +kernel
  obtain ⟨payment, hpayment⟩ := Option.isSome_iff_exists.mp hcreated
  exact ⟨payment, hpayment, run_authenticated (Db.sample_fresh [.asking]) _ 0 payment hpayment⟩

/-- Outside development mode a step leaves every approval pending, and opens it so. -/
lemma State.step_pending {config : AuthConfig} (hmode : config.mode ≠ "development") {env : Env}
    {s : State} (h : ∀ a ∈ s.db.approvals, a.status = .pending) (c : Action) :
    ∀ a ∈ (s.step (config.install env) c).db.approvals, a.status = .pending := by
  have hactor (token : Option String) : onPermissionError 401
      ((config.install env).resolveApprovalBearer token) = .error (.http 401
        "production approval authentication adapter is not configured") := by
    rw [show (config.install env).resolveApprovalBearer token = config.resolveApprovalBearer token
      from rfl, AuthConfig.resolveApprovalBearer_raises hmode]
    rfl
  intro a ha
  obtain ⟨id, hid⟩ := List.mem_iff_getElem?.mp ha
  cases hold : s.db.approvals[id]? with
  | none =>
    obtain ⟨now, i, versionId, budgetId, amount, merchantId, -, hopened⟩ := step_opens hold hid
    obtain rfl := List.mem_singleton.mp hopened
    rfl
  | some a' =>
    have hwrites := step_writes (config.install env) s c
    generalize (s.step (config.install env) c).db = db at hwrites hid
    have hkept : db.approvals[id]? = s.db.approvals[id]? := by
      cases hwrites with
      | nothing | configures | replays => rfl
      | executes _ hexecutes | finalizes _ hexecutes =>
        exact congrArg (·.approvals[id]?) hexecutes.decisions
      | accepts hcreation hopens hdecides =>
        obtain ⟨v, -, hcommits, -⟩ := hopens.decided hdecides
        rw [hcommits.approvals, List.getElem?_append_left (List.getElem?_eq_some_iff.mp hold).1]
      | approves hrun =>
        rw [approvePayment, hactor] at hrun
        cases hrun
      | denies hrun =>
        rw [denyPayment, hactor] at hrun
        cases hrun
    obtain rfl := Option.some.inj (hid.symm.trans (hkept.trans hold))
    exact h a (List.mem_of_getElem? hold)

/-- Outside development mode an approval is never decided, in any run: a payment that wants one
stays APPROVAL_REQUIRED, and is never reserved for nor charged. -/
theorem run_unapproved {config : AuthConfig} (hmode : config.mode ≠ "development") {env : Env}
    {db : Db} (hfresh : db.Fresh) (as : List Action) :
    let s := Machine.run (State.step (config.install env)) (.start db) as
    ∀ a ∈ s.db.approvals, a.status = .pending ∧ ∃ p payment,
      s.db.payments.get? p = some payment ∧ payment.paymentRequestId = a.paymentRequestId ∧
      payment.status = .approvalRequired ∧ ¬ s.db.Reserved p ∧ p ∉ s.charged := by
  intro s
  have hoccurs : s.Occurs (config.install env) := ⟨db, as, hfresh, rfl⟩
  have hpending : ∀ a ∈ s.db.approvals, a.status = .pending := by
    refine Machine.run_invariant (I := fun s : State => ∀ a ∈ s.db.approvals, a.status = .pending)
      (fun s c h => State.step_pending hmode h c) ?_ as
    rw [show (State.start db).db.approvals = [] from hfresh.approvals]
    simp
  intro a ha
  have hdeliberate := hoccurs.deliberate
  obtain ⟨p, payment, hp, hrequest⟩ := hdeliberate.owned a ha
  have hunreserved : ¬ s.db.Reserved p := by
    rintro ⟨payment', row, hp', hrow, hsame⟩
    obtain rfl := Option.some.inj (hp.symm.trans hp')
    exact hdeliberate.unreserved a ha (by simp [hpending a ha]) row hrow (hsame.trans hrequest)
  exact ⟨hpending a ha, p, payment, hp, hrequest,
    (hoccurs.pending_iff ha hp hrequest).mp (hpending a ha), hunreserved,
    fun hcharged => hunreserved (hoccurs.charged_reserved p hcharged)⟩

/-- The approval of a payment of 60 USD is asked for at 950. -/
theorem run_unapproved_oidc :
    let s := Machine.run (State.step (AuthConfig.sample.install .sample))
      (.start (.sample [.asking]))
      (Action.create 0 900 (.sample "key" 60) ++ [.approve 950 0 none (some "Bearer approver")])
    s.db.approvals.length = 1 ∧ ∀ a ∈ s.db.approvals, a.status = .pending ∧ ∃ p payment,
      s.db.payments.get? p = some payment ∧ payment.paymentRequestId = a.paymentRequestId ∧
      payment.status = .approvalRequired ∧ ¬ s.db.Reserved p ∧ p ∉ s.charged :=
  ⟨by decide +kernel, run_unapproved (by decide) (Db.sample_fresh [.asking]) _⟩

end AgentPay
