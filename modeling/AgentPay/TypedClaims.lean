import AgentPay.Assertions

/-!
# Claims of the expected types

The requests of the development are served with claims that have been read already. Here the step
on claims of any shape is the same on those that have the types `AssertionClaims` gives them.
-/

namespace AgentPay.Assertion

variable {py : Python} {jwt : Verifier} {now : Time} {claims : Claims} {body : EvidenceBody}
  {assertion agentId accountId currency : String} {amount : Decimal}

/-! ### Typed claims -/

/-- The claims have the types that `AssertionClaims` gives them. -/
structure Claims.Reads (py : Python) (claims : Claims) (typed : AssertionClaims) : Prop where
  evidenceId : claims.signed py "evidence_id" = some typed.evidenceId
  iss : claims.signed py "iss" = some typed.iss
  protocolVersion : claims.get "protocol_version" = some (.text typed.protocolVersion)
  decision : claims.get "decision" = some (.text typed.decision)
  action : claims.get "action" = some (.text typed.action)
  revocationStatus : claims.get "revocation_status" = some (.text typed.revocationStatus)
  subjectAgent : claims.get "subject_agent" = some (.text typed.subjectAgent)
  accountId : claims.get "account_id" = some (.text typed.accountId)
  delegationId : ((claims.get "delegation_id").filter py.truthy).map py.str =
    typed.delegationId.bind orNone
  scope : grantedScope py claims = typed.scope.granted
  maxAmount : ∃ raw, claims.get "max_amount" = some raw ∧
    py.decimal (py.str raw) = typed.maxAmount.map .finite
  currency : claims.signed py "currency" = some typed.currency
  exp : ∃ raw, claims.get "exp" = some raw ∧ raw ≠ .null ∧ py.fromTimestamp raw = .ok typed.exp
  version : claims.signed py "version" = some typed.version

/-- The context with a finite limit. -/
def lift (context : AgentPay.AuthorizationContext) : AuthorizationContext where
  evidenceId := context.evidenceId
  issuer := context.issuer
  agentId := context.agentId
  accountId := context.accountId
  delegationId := context.delegationId
  scope := context.scope
  maxAmount := context.maxAmount.map .finite
  currency := context.currency
  validUntil := context.validUntil
  digest := context.digest
  version := context.version

lemma validate_lift (hupper : py.upper = upper) (context : AgentPay.AuthorizationContext) :
    (lift context).validate py now agentId accountId amount currency =
      context.validate now agentId accountId amount currency := by
  simp only [AuthorizationContext.validate, AgentPay.AuthorizationContext.validate, lift, hupper]
  cases context.maxAmount with
  | none => rfl
  | some limit => rfl

lemma map_require_bind {α β : Type} (condition : Bool) (message : String) (f : α → β)
    (x : Except Error α) :
    ((require condition message >>= fun _ => x).map f) =
      require condition message >>= fun _ => x.map f := by
  cases condition <;> rfl

lemma verifySignedAssertion_lift {env : Env} {typed : AssertionClaims} (hupper : py.upper = upper)
    (hconfigured : jwt.configured = env.assertionConfigured) (hsha : jwt.sha256 = env.sha256)
    (hdecode : jwt.decode assertion = some claims)
    (htyped : env.decodeAssertion assertion now = some typed) (hreads : claims.Reads py typed) :
    verifySignedAssertion py jwt assertion agentId accountId amount currency =
      (AgentPay.verifySignedAssertion env now assertion agentId accountId amount currency).map
        lift := by
  obtain ⟨rawAmount, hrawAmount, hdecimal⟩ := hreads.maxAmount
  obtain ⟨rawExp, hexp, hnull, hmoment⟩ := hreads.exp
  obtain ⟨id, hid, hid'⟩ := Option.map_eq_some_iff.mp hreads.evidenceId
  obtain ⟨iss, hiss, hiss'⟩ := Option.map_eq_some_iff.mp hreads.iss
  obtain ⟨code, hcode, hcode'⟩ := Option.map_eq_some_iff.mp hreads.currency
  obtain ⟨version, hversion, hversion'⟩ := Option.map_eq_some_iff.mp hreads.version
  have hbind : ∀ {α β : Type} (a : α) (f : α → Except Error β), (Except.ok a >>= f) = f a :=
    fun _ _ => rfl
  simp only [verifySignedAssertion, AgentPay.verifySignedAssertion, hconfigured, hdecode, htyped,
    readClaims, Claims.isText, hreads.protocolVersion, hreads.decision, hreads.action,
    hreads.revocationStatus, hreads.subjectAgent, hreads.accountId, hreads.scope, Claims.item,
    hrawAmount, hcode, hcode', hdecimal, hupper, map_require_bind, hbind]
  cases typed.maxAmount with
  | none => rfl
  | some limit =>
    have hnew : newContext py jwt claims assertion agentId accountId (.finite limit)
        (upper typed.currency) = .ok (lift
          { evidenceId := typed.evidenceId, issuer := typed.iss, agentId, accountId,
            delegationId := typed.delegationId.bind orNone, scope := typed.scope.granted,
            maxAmount := some limit, currency := some (upper typed.currency),
            validUntil := some typed.exp, digest := some (env.sha256 assertion),
            version := some typed.version }) := by
      refine newContext_eq_ok.mpr ⟨id, iss, rawExp, typed.exp, version, hid, hiss, hexp, hnull,
        hmoment, hversion, ?_⟩
      simp [lift, hid', hiss', hversion', hreads.delegationId, hreads.scope, hsha]
    simp only [Option.map_some, DecimalValue.isPositive, DecimalValue.covers, hbind, hnew,
      map_require_bind]
    rfl

/-! ### The step -/

/-- Nothing but an `AuthorizationError` is raised. -/
def Refuses {α : Type} (x : Except Error α) : Prop :=
  ∀ e, x = .error e → ∃ message, e = .permissionError message

lemma refuses_require (condition : Bool) (message : String) :
    Refuses (require condition message) := by
  intro e h
  cases condition with
  | true => cases h
  | false => exact ⟨message, (Except.error.inj h).symm⟩

lemma Refuses.bind {α β : Type} {x : Except Error α} {f : α → Except Error β} (hx : Refuses x)
    (hf : ∀ a, Refuses (f a)) : Refuses (x >>= f) := by
  intro e h
  cases x with
  | error e' =>
    have h : (Except.error e' : Except Error β) = .error e := h
    exact hx e (congrArg Except.error (Except.error.inj h))
  | ok a => exact hf a e h

lemma refuses_pure {α : Type} (a : α) : Refuses (pure a : Except Error α) := by
  intro e h
  cases h

lemma refuses_throw {α : Type} (message : String) :
    Refuses (throw (.permissionError message) : Except Error α) := by
  intro e h
  exact ⟨message, (Except.error.inj h).symm⟩

lemma refuses_verifySignedAssertion (env : Env) (now : Time) (assertion agentId accountId : String)
    (amount : Decimal) (currency : String) :
    Refuses (AgentPay.verifySignedAssertion env now assertion agentId accountId amount
      currency) := by
  refine (refuses_require _ _).bind fun _ => (refuses_require _ _).bind fun _ => ?_
  cases env.decodeAssertion assertion now with
  | none => exact refuses_throw _
  | some typed =>
    refine (refuses_require _ _).bind fun _ => (refuses_require _ _).bind fun _ =>
      (refuses_require _ _).bind fun _ => (refuses_require _ _).bind fun _ =>
      (refuses_require _ _).bind fun _ => (refuses_require _ _).bind fun _ =>
      (refuses_require _ _).bind fun _ => ?_
    cases typed.maxAmount with
    | none => exact refuses_throw _
    | some limit =>
      exact (refuses_require _ _).bind fun _ => (refuses_require _ _).bind fun _ =>
        (refuses_require _ _).bind fun _ => refuses_pure _

lemma refuses_validate (context : AgentPay.AuthorizationContext) (now : Time)
    (agentId accountId : String) (amount : Decimal) (currency : String) :
    Refuses (context.validate now agentId accountId amount currency) :=
  (refuses_require _ _).bind fun _ => (refuses_require _ _).bind fun _ =>
    (refuses_require _ _).bind fun _ => (refuses_require _ _).bind fun _ =>
    (refuses_require _ _).bind fun _ => (refuses_require _ _).bind fun _ =>
    (refuses_require _ _).bind fun _ => (refuses_require _ _).bind fun _ =>
    (refuses_require _ _).bind fun _ => (refuses_require _ _).bind fun _ => refuses_require _ _

/-- Where nothing else is raised, catching a `ValueError` as well makes no difference. -/
lemma Refuses.refusing_map {α β : Type} {x : Except Error α} (h : Refuses x) (f : α → β) :
    refusing (x.map f) = (onPermissionError 403 x).map f := by
  cases x with
  | error e =>
    obtain ⟨message, rfl⟩ := h e rfl
    rfl
  | ok a => rfl

/-- On claims of the expected types the step is the one the requests are served with. -/
theorem authorize_lift {env : Env} {typed : AssertionClaims} {request : CreatePayment}
    (hupper : py.upper = upper) (hconfigured : jwt.configured = env.assertionConfigured)
    (hsha : jwt.sha256 = env.sha256) (hbody : body.signedAssertion = some assertion)
    (hdecode : jwt.decode assertion = some claims)
    (htyped : env.decodeAssertion assertion now = some typed) (hreads : claims.Reads py typed) :
    authorize py jwt now body request.agentId request.accountId request.amount.decimal
        request.amount.currency =
      (AgentPay.authorize env now request body).map fun accepted => lift accepted.2 := by
  rw [authorize, AgentPay.authorize]
  cases hraw : body.signedAssertion.bind orNone with
  | none => rfl
  | some assertion' =>
    obtain rfl : assertion = assertion' := by
      by_cases hempty : assertion = ""
      · simp [hbody, orNone, hempty] at hraw
      · simpa [hbody, orNone, hempty] using hraw
    simp only [hupper]
    rw [← Refuses.refusing_map]
    · congr 1
      rw [verifySignedAssertion_lift hupper hconfigured hsha hdecode htyped hreads]
      cases hverified : AgentPay.verifySignedAssertion env now assertion request.agentId
          request.accountId request.amount.decimal request.currency with
      | error e =>
        rw [CreatePayment.currency] at hverified
        simp only [CreatePayment.currency, hverified]
        rfl
      | ok context =>
        rw [CreatePayment.currency] at hverified
        have hbind : ∀ {α β : Type} (a : α) (f : α → Except Error β), (Except.ok a >>= f) = f a :=
          fun _ _ => rfl
        have hmap : (Except.ok context : Except Error _).map lift = .ok (lift context) := rfl
        simp only [CreatePayment.currency, hverified, hmap, hbind, validate_lift hupper]
        cases context.validate now request.agentId request.accountId request.amount.decimal
          (upper request.amount.currency) with
        | error e => rfl
        | ok _ =>
          simp only [requireMatch, hbind, map_require_bind]
          rfl
    · exact (refuses_verifySignedAssertion _ _ _ _ _ _ _).bind fun context =>
        (refuses_validate _ _ _ _ _ _).bind fun _ => (refuses_require _ _).bind fun _ =>
        (refuses_require _ _).bind fun _ => (refuses_require _ _).bind fun _ => refuses_pure _

end AgentPay.Assertion
