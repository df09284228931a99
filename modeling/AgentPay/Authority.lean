import AgentPay.Idempotency

/-!
# Authority

A payment that is reserved for or charged was asked for with evidence that covers it, was let pass
by a policy of its account, and was approved where the policy wants that; its reservation is of its
own amount, on a budget of its account.
-/

namespace AgentPay

open Support

/-! ### What an accepted assertion says -/

/-- The claims cover a payment: they name its agent, account and currency, and their maximum is not
below its amount. -/
structure AssertionClaims.Covers (claims : AssertionClaims) (agentId accountId : String)
    (amount : Decimal) (currency : String) : Prop where
  decision : claims.decision = "ALLOW"
  action : claims.action = "PAYMENT"
  revocationStatus : claims.revocationStatus = "VALID"
  scope : "PAYMENT" ∈ claims.scope.granted
  subjectAgent : claims.subjectAgent = agentId
  accountId : claims.accountId = accountId
  currency : upper claims.currency = upper currency
  maxAmount : ∃ limit, claims.maxAmount = some limit ∧ amount.units ≤ limit.units

lemma onPermissionError_eq_ok {α : Type} {status : ℕ} {x : Except Error α} {a : α} :
    onPermissionError status x = .ok a ↔ x = .ok a := by
  rcases x with e | b
  · cases e <;> simp [onPermissionError]
  · simp [onPermissionError]

/-- What is returned for an assertion was read from claims that cover the payment. -/
lemma verifySignedAssertion_covers {env : Env} {now : Time} {assertion agentId accountId : String}
    {amount : Decimal} {currency : String} {context : AuthorizationContext}
    (h : verifySignedAssertion env now assertion agentId accountId amount currency =
      .ok context) :
    ∃ claims, env.decodeAssertion assertion now = some claims ∧
      claims.Covers agentId accountId amount currency := by
  simp only [verifySignedAssertion, Except.bind_eq_ok, require_eq_ok, exists_const] at h
  obtain ⟨-, -, h⟩ := h
  cases hdecode : env.decodeAssertion assertion now with
  | none => simp [hdecode, throw, throwThe, MonadExceptOf.throw] at h
  | some claims =>
    simp only [hdecode, Except.bind_eq_ok, require_eq_ok, exists_const, decide_eq_true_eq] at h
    obtain ⟨-, hdecision, haction, hstatus, hagent, haccount, hscope, h⟩ := h
    cases hlimit : claims.maxAmount with
    | none => simp [hlimit, throw, throwThe, MonadExceptOf.throw] at h
    | some limit =>
      simp only [hlimit, Except.bind_eq_ok, require_eq_ok, exists_const, Bool.and_eq_true,
        decide_eq_true_eq] at h
      obtain ⟨-, ⟨-, hcurrency⟩, ⟨-, hamount⟩, -⟩ := h
      exact ⟨claims, rfl, hdecision, haction, hstatus, hscope, hagent, haccount, hcurrency, limit,
        hlimit, hamount⟩

/-- An assertion of the body that was accepted, at `now`, for what a call asks. -/
def Intake.Accepted (env : Env) (now : Time) (i : Intake) : Prop :=
  ∃ assertion claims, i.evidence.signedAssertion = some assertion ∧
    env.decodeAssertion assertion now = some claims ∧
    claims.Covers i.request.agentId i.request.accountId i.request.amount.decimal i.request.currency

lemma authorize_covers {env : Env} {now : Time} {request : CreatePayment} {evidence : EvidenceBody}
    {x : String × AuthorizationContext} (h : authorize env now request evidence = .ok x) :
    ∃ assertion claims, evidence.signedAssertion = some assertion ∧
      env.decodeAssertion assertion now = some claims ∧
      claims.Covers request.agentId request.accountId request.amount.decimal request.currency := by
  simp only [authorize] at h
  cases hassertion : evidence.signedAssertion.bind orNone with
  | none => simp [hassertion] at h
  | some assertion =>
    simp only [hassertion, onPermissionError_eq_ok, Except.bind_eq_ok] at h
    obtain ⟨context, hverified, -⟩ := h
    obtain ⟨claims, hdecode, hcovers⟩ := verifySignedAssertion_covers hverified
    obtain ⟨given, hgiven, hnonempty⟩ := Option.bind_eq_some_iff.mp hassertion
    obtain rfl := orNone_eq_some hnonempty
    exact ⟨_, claims, hgiven, hdecode, hcovers⟩

lemma openPayment_accepted {env : Env} {now : Time} {db : Db} {call : CreateCall} {i : Intake}
    (h : openPayment env now db call = .intake i) : i.Accepted env now := by
  simp only [openPayment] at h
  split at h
  · cases h
  split at h
  · cases h
  split at h
  · cases h
  rename_i hauthorize
  obtain rfl := Opening.intake.inj h
  exact authorize_covers hauthorize

/-! ### Rows that are only added -/

/-- Merchants and evidence are added, and stay as they are. -/
structure Db.Extends (db db' : Db) : Prop where
  merchants : db.merchants <+: db'.merchants
  authorizationEvidence : db.authorizationEvidence <+: db'.authorizationEvidence

lemma Db.Extends.refl (db : Db) : db.Extends db := ⟨List.prefix_rfl, List.prefix_rfl⟩

lemma State.step_extends (env : Env) (s : State) (a : Action) : s.db.Extends (s.step env a).db := by
  have hwrites := step_writes env s a
  generalize (s.step env a).db = db at hwrites
  cases hwrites with
  | nothing | configures => exact ⟨List.prefix_rfl, List.prefix_rfl⟩
  | executes _ hexecutes | finalizes _ hexecutes =>
    have hmerchants : db.merchants = s.db.merchants :=
      congrArg Decisions.merchants hexecutes.decisions
    have hevidence : db.authorizationEvidence = s.db.authorizationEvidence :=
      congrArg Decisions.authorizationEvidence hexecutes.decisions
    exact ⟨hmerchants ▸ List.prefix_rfl, hevidence ▸ List.prefix_rfl⟩
  | replays i added => exact ⟨List.prefix_append _ _, List.prefix_append _ _⟩
  | accepts hcreation hopens hdecides =>
    obtain ⟨v, -, hcommits, -⟩ := hopens.decided hdecides
    obtain ⟨added, hmerchants⟩ := hcommits.merchants
    exact ⟨hmerchants ▸ List.prefix_append _ _, hcommits.evidence ▸ List.prefix_append _ _⟩
  | @approves now id reason authorization x _ hrun =>
    obtain ⟨p, status⟩ := x
    obtain ⟨actor, approval, request, payment, budgetId, budget, happroves⟩ :=
      approvePayment_rows hrun
    rw [happroves.rest]
    exact ⟨List.prefix_rfl, List.prefix_rfl⟩
  | @denies id reason authorization x _ hrun =>
    obtain ⟨p, status⟩ := x
    obtain ⟨actor, approval, request, payment, -, -, -, rfl⟩ := denyPayment_eq_ok hrun
    exact ⟨List.prefix_rfl, List.prefix_rfl⟩

lemma State.run_extends (env : Env) (s : State) (as : List Action) :
    s.db.Extends (Machine.run (step env) s as).db := by
  refine Machine.run_invariant (I := fun s' : State => s.db.Extends s'.db) ?_ (.refl s.db) as
  intro s' a h
  have hstep := step_extends env s' a
  exact ⟨h.merchants.trans hstep.merchants,
    h.authorizationEvidence.trans hstep.authorizationEvidence⟩

/-- The binding of a request is made of what stays. -/
lemma Db.Extends.bindingOf {db db' : Db} (h : db.Extends db') {request request' : PaymentRequest}
    (horder : request'.order = request.order)
    (hknown : ∀ m ∈ request.merchantId, m < db.merchants.length) (i : RequestId) :
    ControlRepository.bindingOf db' i request' = ControlRepository.bindingOf db i request := by
  have hmerchant : request'.merchantId = request.merchantId :=
    (congrArg PaymentRequest.merchantId horder :)
  have hdomain : ControlRepository.merchantDomain db' request' =
      ControlRepository.merchantDomain db request := by
    rw [ControlRepository.merchantDomain, ControlRepository.merchantDomain, hmerchant]
    cases hm : request.merchantId with
    | none => rfl
    | some m =>
      obtain ⟨added, hadded⟩ := h.merchants
      have hrow : db'.merchants[m]? = db.merchants[m]? := by
        rw [← hadded]
        exact List.getElem?_append_left (hknown m hm)
      rw [Option.bind_some, Option.bind_some, hrow]
  simp only [ControlRepository.bindingOf, hdomain]
  simp only [PaymentRequest.order, PaymentRequest.mk.injEq] at horder
  obtain ⟨haccount, hagent, -, hamount, hcurrency, -, -, hversion, -, -, hevidence, -⟩ := horder
  rw [haccount, hagent, hamount, hcurrency, hversion, hevidence]

/-! ### The step that creates a payment -/

lemma Decides.merchants {env : Env} {now : Time} {db db' : Db} {i : Intake} {requestId : RequestId}
    {p : PaymentId} {outcome : CreateOutcome} (h : Decides env now db i requestId p outcome db') :
    db'.merchants = db.merchants := by
  have hevaluate {x : Decision × Option PolicyVersionId × ControlRepository.PolicyEvidence}
      {db₁ : Db}
      (heval : ControlRepository.evaluatePolicy db (i.question requestId) = .ok (x, db₁)) :
      db₁.merchants = db.merchants := by
    obtain ⟨decision, versionId, evidence⟩ := x
    rcases ControlRepository.evaluatePolicy_eq_ok heval with
      ⟨-, -, -, rfl⟩ | ⟨row, policy, -, -, -, -, rfl⟩
    · rfl
    · rfl
  cases h with
  | denied heval | unfunded heval =>
    have hsame := hevaluate heval
    exact hsame
  | waits heval hbudget happroval =>
    obtain ⟨request, -, -, rfl⟩ := ControlRepository.createApproval_eq_ok happroval
    have hsame := hevaluate heval
    exact hsame
  | starts heval hdecision hbudget hprepare =>
    obtain ⟨request, budget, stored, reservations, -, -, -, -, -, -, -, -, rfl⟩ :=
      PaymentOrchestrator.prepare_rows hprepare
    have hsame := hevaluate heval
    split_ifs
    · exact hsame
    · exact hsame

/-- A payment that is new after a step was created by it, from an intake that was inserted. -/
theorem State.step_creates {env : Env} {s : State} {a : Action} {p : PaymentId} {payment : Payment}
    (hnone : s.db.payments.get? p = none)
    (hnew : (s.step env a).db.payments.get? p = some payment) :
    ∃ c now i v amount merchantId, a = .commitPayment c now ∧
      s.creations[c]? = some (.inserted i) ∧ p = s.db.payments.nextId ∧
      Verdict.Justified s.db i v ∧
      v.Commits env now s.db i amount merchantId (s.step env a).db ∧
      ∀ m ∈ merchantId, m < (s.step env a).db.merchants.length := by
  have hle : s.db.payments.nextId ≤ p := List.getElem?_eq_none_iff.mp hnone
  have hnext : s.db.payments.nextId < (s.step env a).db.payments.nextId :=
    lt_of_le_of_lt hle (Table.get?_lt hnew)
  obtain ⟨c, now, i, -, -, -, rfl, hdeciding, -, -⟩ :=
    State.step_created (List.getElem?_eq_getElem hnext)
  have hcreation : s.creations[c]? = some (.inserted i) := by
    simp only [deciding] at hdeciding
    split at hdeciding
    · rename_i j hj
      rw [hj, Option.some.inj hdeciding]
    · cases hdeciding
  have hstep : s.step env (.commitPayment c now) = s.accepted env now c i := by
    simp only [step, hcreation]
  rw [hstep] at hnew ⊢
  simp only [accepted] at hnew ⊢
  cases hrun : acceptPayment env now s.db i with
  | error e =>
    rw [hrun] at hnew
    cases hnone.symm.trans hnew
  | ok x =>
    obtain ⟨outcome, db⟩ := x
    simp only [hrun] at hnew ⊢
    rcases acceptPayment_cases hrun with ⟨requestId, existing, added, -, -, rfl⟩ |
      ⟨amount, merchantId, opened, hopens, hknown, hdecides⟩
    · cases hnone.symm.trans hnew
    · obtain ⟨v, hjustified, hcommits, -⟩ := hopens.decided hdecides
      have hp : p = s.db.payments.nextId := by
        rw [Table.get?_of_rows_append hcommits.payments] at hnew
        split_ifs at hnew with hp
        · exact hp
        · cases hnone.symm.trans hnew
      exact ⟨c, now, i, v, amount, merchantId, rfl, hcreation, hp, hjustified, hcommits,
        hdecides.merchants ▸ hknown⟩

/-! ### The decision -/

/-- A version of a policy of the account, both of them ACTIVE, decides an intake. -/
def Intake.DecidedBy (i : Intake) (db : Db) (versionId : PolicyVersionId) (decision : Decision) :
    Prop :=
  ∃ version ∈ db.policyVersions[versionId]?, ∃ policy ∈ db.policies[version.policyId]?,
    ∃ rules ∈ version.rules, version.active = true ∧ policy.active = true ∧
      policy.accountId = i.request.accountId ∧
      (rules.evaluateWithTrace i.intent (i.request.merchant.bind (·.category))).decision = decision

namespace ControlRepository

lemma mem_of_newest {before : ActivePolicy → ActivePolicy → Bool} {rows : List ActivePolicy}
    {row : ActivePolicy} (h : newest before rows = some row) : row ∈ rows := by
  induction rows generalizing row with
  | nil => cases h
  | cons r rs ih =>
    simp only [newest] at h
    cases hlast : newest before rs with
    | none =>
      simp only [hlast, Option.some.injEq] at h
      exact h ▸ List.mem_cons_self
    | some b =>
      simp only [hlast] at h
      split_ifs at h
      · obtain rfl := Option.some.inj h
        exact List.mem_cons_of_mem r (ih hlast)
      · exact Option.some.inj h ▸ List.mem_cons_self

lemma mem_of_activePolicy {db : Db} {accountId : String} {policyId : Option PolicyId}
    {row : ActivePolicy} (h : activePolicy db accountId policyId = some row) :
    row ∈ activePolicies db accountId := by
  cases policyId with
  | none         => exact mem_of_newest h
  | some policyId => exact (List.mem_filter.mp (mem_of_newest h)).1

lemma exists_of_mem_activePolicies {db : Db} {accountId : String} {row : ActivePolicy}
    (h : row ∈ activePolicies db accountId) :
    ∃ version ∈ db.policyVersions[row.versionId]?, ∃ policy ∈ db.policies[version.policyId]?,
      row.rules = version.rules ∧ version.active = true ∧ policy.active = true ∧
        policy.accountId = accountId := by
  obtain ⟨versionId, -, hrow⟩ := List.mem_filterMap.mp h
  obtain ⟨version, hversion, hrow⟩ := Option.bind_eq_some_iff.mp hrow
  obtain ⟨policy, hpolicy, hrow⟩ := Option.bind_eq_some_iff.mp hrow
  split_ifs at hrow with hactive
  simp only [Bool.and_eq_true, decide_eq_true_eq] at hactive
  obtain rfl := Option.some.inj hrow
  exact ⟨version, hversion, policy, hpolicy, rfl, hactive.1.1, hactive.1.2, hactive.2⟩

end ControlRepository

lemma Intake.decidedBy_of_policy {i : Intake} {db : Db} {row : ControlRepository.ActivePolicy}
    {decision : Decision} (hrow : i.policy db = some row)
    (hdecision : row.decision i = some decision) : i.DecidedBy db row.versionId decision := by
  obtain ⟨version, hversion, policy, hpolicy, hrules, hactive, hactive', haccount⟩ :=
    ControlRepository.exists_of_mem_activePolicies (ControlRepository.mem_of_activePolicy hrow)
  obtain ⟨rules, hread, hdecides⟩ := Option.map_eq_some_iff.mp hdecision
  exact ⟨version, hversion, policy, hpolicy, rules, hrules ▸ hread, hactive, hactive', haccount,
    hdecides⟩

/-- A payment that does not fail at once was let pass, or waits because the policy wants that. -/
lemma Verdict.Justified.passed {db : Db} {i : Intake} {v : Verdict} (h : v.Justified db i)
    (hstatus : v.status ≠ .failed) :
    ∃ versionId decision, v.versionId = some versionId ∧ decision ≠ .deny ∧
      i.DecidedBy db versionId decision ∧
      (decision = .requireApproval → ∃ b, v = .waits versionId b) := by
  cases h with
  | missing | denied | unfunded => exact absurd rfl hstatus
  | @waits row b hrow hdecision =>
    exact ⟨_, _, rfl, by decide, i.decidedBy_of_policy hrow hdecision, fun _ => ⟨b, rfl⟩⟩
  | @starts row b notify hrow hdecision =>
    refine ⟨_, _, rfl, ?_, i.decidedBy_of_policy hrow hdecision, ?_⟩
    · cases notify <;> decide
    · intro hwaits
      cases notify <;> cases hwaits

/-! ### The evidence -/

/-- The evidence of a request is VERIFIED, is of its account and agent, and carries an assertion
that was accepted, at `now`, for what the request asks. -/
structure AuthorizationEvidence.Covers (env : Env) (now : Time) (e : AuthorizationEvidence)
    (requestId : RequestId) (request : PaymentRequest) : Prop where
  verified : e.verificationStatus = .verified
  accountId : e.accountId = request.accountId
  agentId : e.agentId = request.agentId
  bound : e.paymentRequestId = some requestId
  signed : ∃ assertion claims, e.evidence.body.signedAssertion = some assertion ∧
    env.decodeAssertion assertion now = some claims ∧
    claims.Covers request.agentId request.accountId request.amount.toDecimal request.currency

/-- A request amount has no more places than its column. -/
lemma Money.units_decimal (m : Money) : ∃ n : ℤ, m.decimal.units = n := by
  have hplaces : (m.places : ℕ) ≤ 4 := Nat.le_of_lt_succ m.places.isLt
  refine ⟨m.digits * 10 ^ (4 - (m.places : ℕ)), ?_⟩
  have hsplit : (10000 : ℚ) = 10 ^ (4 - (m.places : ℕ)) * 10 ^ (m.places : ℕ) := by
    rw [← pow_add, Nat.sub_add_cancel hplaces]
    norm_num
  rw [Decimal.units, Money.decimal, hsplit]
  push_cast
  field_simp

lemma Money.units_store {m : Money} {a : Amount} (h : Amount.store m.decimal = .ok a) :
    a.toDecimal.units = m.decimal.units := by
  obtain ⟨n, hn⟩ := m.units_decimal
  rw [Amount.store_eq_ok, hn, roundUnits_intCast] at h
  rw [Amount.units_toDecimal, hn]
  exact_mod_cast h

/-- The evidence row of a creation covers the request it commits, for good. -/
lemma Verdict.Commits.covered {env : Env} {now opened : Time} {db db' after : Db} {i : Intake}
    {v : Verdict} {amount : Amount} {merchantId : Option MerchantId}
    (h : v.Commits env now db i amount merchantId db') (haccepted : i.Accepted env opened)
    (hextends : db'.Extends after) {request : PaymentRequest}
    (horder : request.order = (v.request db i amount merchantId).order) :
    ∃ e ∈ after.boundEvidence request, e.Covers env opened db.paymentRequests.nextId request := by
  obtain ⟨assertion, claims, hassertion, hdecode, hcovers⟩ := haccepted
  simp only [PaymentRequest.order, PaymentRequest.mk.injEq] at horder
  obtain ⟨haccount, hagent, -, hamount, hcurrency, -, -, -, -, -, hevidence, -⟩ := horder
  have hlast : db'.authorizationEvidence[db.authorizationEvidence.length]? =
      some { i.evidenceRow with paymentRequestId := some db.paymentRequests.nextId } := by
    rw [h.evidence, List.getElem?_concat_length]
  obtain ⟨added, hadded⟩ := hextends.authorizationEvidence
  have hkept : after.authorizationEvidence[db.authorizationEvidence.length]? =
      db'.authorizationEvidence[db.authorizationEvidence.length]? := by
    rw [← hadded]
    exact List.getElem?_append_left (List.getElem?_eq_some_iff.mp hlast).1
  have hbound : { i.evidenceRow with paymentRequestId := some db.paymentRequests.nextId } ∈
      after.boundEvidence request := by
    rw [Db.boundEvidence, hevidence]
    exact hkept.trans hlast
  refine ⟨_, hbound, rfl, haccount.symm, hagent.symm, rfl, assertion, claims, hassertion, hdecode,
    ?_⟩
  obtain ⟨limit, hlimit, hle⟩ := hcovers.maxAmount
  refine { hcovers with
    subjectAgent := hcovers.subjectAgent.trans hagent.symm
    accountId := hcovers.accountId.trans haccount.symm
    currency := ?_
    maxAmount := ⟨limit, hlimit, ?_⟩ }
  · rw [hcurrency]
    exact hcovers.currency
  · rw [hamount]
    exact (Money.units_store h.stored).le.trans hle

/-! ### The approval -/

/-- A payment that waited has an approval of what it is now, and it is approved once there is a
reservation. -/
lemma Verdict.Commits.approved {env : Env} {now : Time} {s : State} {a : Action} {i : Intake}
    {versionId : PolicyVersionId} {b : BudgetId} {amount : Amount} {merchantId : Option MerchantId}
    (h : (Verdict.waits versionId b).Commits env now s.db i amount merchantId (s.step env a).db)
    (hknown : ∀ m ∈ merchantId, m < (s.step env a).db.merchants.length)
    {as : List Action} {after : State}
    (hrun : Machine.run (State.step env) (s.step env a) as = after)
    (hdeliberate : after.db.Deliberate) {row : BudgetReservation}
    (hrow : row ∈ after.db.budgetReservations.rows)
    (hrequest : row.paymentRequestId = s.db.paymentRequests.nextId) {request : PaymentRequest}
    (horder : request.order =
      ((Verdict.waits versionId b).request s.db i amount merchantId).order) :
    ∃ approval ∈ after.db.approvals, approval.paymentRequestId = s.db.paymentRequests.nextId ∧
      approval.status = .approved ∧ approval.intentDigest =
        (ControlRepository.bindingOf after.db s.db.paymentRequests.nextId request).digest env := by
  have hopened := h.approvals
  simp only [Verdict.approvals] at hopened
  have hlast := congrArg (·[s.db.approvals.length]?) hopened
  simp only [List.getElem?_concat_length] at hlast
  obtain ⟨approval, hkept, hterms, -⟩ := State.run_approval_kept hlast as
  rw [hrun] at hkept
  simp only [Approval.terms, Prod.mk.injEq] at hterms
  obtain ⟨hsame, -, hdigest⟩ := hterms
  have hmem := List.mem_of_getElem? hkept
  refine ⟨approval, hmem, hsame, ?_, ?_⟩
  · by_contra hstatus
    exact hdeliberate.unreserved approval hmem hstatus row hrow (hrequest.trans hsame.symm)
  · have hextends := State.run_extends env (s.step env a) as
    rw [hrun] at hextends
    rw [hdigest, hextends.bindingOf horder hknown]

/-! ### The reservation -/

/-- A reservation is of the amount and currency of its request, on a budget of its account. -/
def BudgetReservation.Serves (row : BudgetReservation) (db : Db) (request : PaymentRequest) :
    Prop :=
  row.amount = request.amount ∧ row.currency = request.currency ∧
    ∃ budget ∈ db.budgets[row.budgetId]?, budget.accountId = request.accountId

lemma State.Occurs.serves {env : Env} {s : State} (h : s.Occurs env) {row : BudgetReservation}
    (hrow : row ∈ s.db.budgetReservations.rows) {request : PaymentRequest}
    (hrequest : s.db.paymentRequests.get? row.paymentRequestId = some request) :
    row.Serves s.db request := by
  obtain ⟨r, hr⟩ := List.mem_iff_getElem?.mp hrow
  obtain ⟨request', hrequest', hlink⟩ := h.reachable.invariant.sound.linked r row hr
  obtain rfl := Option.some.inj (hrequest'.symm.trans hrequest)
  obtain ⟨hbudget, hamount, hcurrency⟩ := h.coherent.reservation _ request' r row hrequest hlink hr
  obtain ⟨budget, hrow, haccount, -⟩ := h.coherent.budget _ request' _ hrequest hbudget
  exact ⟨hamount, hcurrency, budget, hrow, haccount⟩

/-! ### Authority -/

/-- In a run from `db` a call is opened as an intake at `opened`, and later payment `p` is created
from it, and decided in `decided`. -/
def Intake.Creates (env : Env) (db : Db) (as : List Action) (i : Intake) (opened : Time)
    (decided : Db) (p : PaymentId) : Prop :=
  ∃ before call between c now after,
    as = before ++ .openPayment opened call :: (between ++ .commitPayment c now :: after) ∧
      openPayment env opened (Machine.run (State.step env) (.start db) before).db call =
        .intake i ∧
      let s := Machine.run (State.step env) (.start db)
        (before ++ .openPayment opened call :: between)
      s.deciding (.commitPayment c now) = some i ∧ s.db = decided ∧ s.db.payments.get? p = none ∧
        ((s.step env (.commitPayment c now)).db.payments.get? p).isSome

/-- What authorizes a request that was asked for as an intake: the evidence that was accepted, the
decision with the approval it wants, and the reservation. -/
structure Intake.Authorizes (env : Env) (opened : Time) (i : Intake) (decided db : Db)
    (requestId : RequestId) (request : PaymentRequest) : Prop where
  asked : request.accountId = i.request.accountId ∧ request.agentId = i.request.agentId ∧
    request.amount.toDecimal.units = i.request.amount.decimal.units ∧
    request.currency = i.request.currency
  evidence : ∃ e ∈ db.boundEvidence request, e.Covers env opened requestId request
  decision : ∃ versionId decision, request.policyVersionId = some versionId ∧ decision ≠ .deny ∧
    i.DecidedBy decided versionId decision ∧
    (decision = .requireApproval → ∃ approval ∈ db.approvals,
      approval.paymentRequestId = requestId ∧ approval.status = .approved ∧
      approval.intentDigest = (ControlRepository.bindingOf db requestId request).digest env)
  reserved : ∃ row ∈ db.budgetReservations.rows, row.paymentRequestId = requestId
  serves : ∀ row ∈ db.budgetReservations.rows, row.paymentRequestId = requestId →
    row.Serves db request

/-- An intake that is about to be decided was opened. -/
lemma run_opened {env : Env} {db : Db} {as : List Action} {c : ℕ} {i : Intake}
    (hcreation : (Machine.run (State.step env) (.start db) as).creations[c]? =
      some (.inserted i)) :
    ∃ before now call between, as = before ++ .openPayment now call :: between ∧
      openPayment env now (Machine.run (State.step env) (.start db) before).db call =
        .intake i := by
  have hnone : ¬ ∃ creation ∈ (State.start db).creations, creation.intake? = some i := by
    rintro ⟨creation, hmem, -⟩
    cases hmem
  obtain ⟨before, a, between, rfl, hbefore, creation, hmem, hi⟩ :=
    Machine.exists_step (P := fun s : State => ∃ creation ∈ s.creations,
      creation.intake? = some i) hnone ⟨_, List.mem_of_getElem? hcreation, rfl⟩
  rcases State.step_intake hmem hi with hold | ⟨now, call, rfl, hopen⟩
  · exact absurd hold hbefore
  · exact ⟨before, now, call, between, rfl, hopen⟩

/-- Whatever creations, approvals, workers and other requests do, and however they interleave, a
payment that is reserved for or charged was opened with evidence that covers it, was let pass when
it was created, was approved where that is wanted, and has a reservation that serves it. -/
theorem run_authorized {env : Env} {db : Db} (hfresh : db.Fresh) (as : List Action) :
    let s := Machine.run (State.step env) (.start db) as
    ∀ p, s.db.Reserved p ∨ p ∈ s.charged →
      ∃ (payment : Payment) (request : PaymentRequest) (i : Intake) (opened : Time) (decided : Db),
        s.db.payments.get? p = some payment ∧
        s.db.paymentRequests.get? payment.paymentRequestId = some request ∧
        i.Creates env db as opened decided p ∧
        i.Authorizes env opened decided s.db payment.paymentRequestId request := by
  intro s p hp
  have hoccurs : s.Occurs env := ⟨db, as, hfresh, rfl⟩
  have hreserved : s.db.Reserved p := hp.elim id (hoccurs.charged_reserved p)
  obtain ⟨payment, row, hpayment, hrow, hrequestId⟩ := hreserved
  -- the step that creates the payment
  have hstart : ¬ ((State.start db).db.payments.get? p).isSome := by
    have hnone : (State.start db).db.payments.get? p = none :=
      Table.get?_of_rows_nil hfresh.payments p
    rw [hnone]
    exact Bool.false_ne_true
  obtain ⟨bs, a, after, rfl, hbefore, hafter⟩ :=
    Machine.exists_step (P := fun s : State => (s.db.payments.get? p).isSome) hstart
      (show (s.db.payments.get? p).isSome by rw [hpayment]; rfl)
  set t := Machine.run (State.step env) (.start db) bs with ht
  have hnone : t.db.payments.get? p = none := Option.not_isSome_iff_eq_none.mp hbefore
  obtain ⟨created, hcreated⟩ := Option.isSome_iff_exists.mp hafter
  obtain ⟨c, now, i, v, amount, merchantId, rfl, hcreation, rfl, hjustified, hcommits, hknown⟩ :=
    State.step_creates hnone hcreated
  have hrun : Machine.run (State.step env) (t.step env (.commitPayment c now)) after = s := by
    simp only [s, ht, Machine.run_append, Machine.run_cons]
  have htoccurs : t.Occurs env := ⟨db, bs, hfresh, rfl⟩
  have hcoccurs := htoccurs.step (.commitPayment c now)
  -- its rows, then and now
  have hfirst : (t.step env (.commitPayment c now)).db.payments.get? t.db.payments.nextId =
      some (v.payment t.db i amount) :=
    (Table.get?_of_rows_append hcommits.payments _).trans (if_pos rfl)
  have hfirstRequest := (Table.get?_of_rows_append hcommits.requests
    t.db.paymentRequests.nextId).trans (if_pos rfl)
  obtain ⟨payment', hpayment', hterms⟩ := State.run_row
    (fun db => db.payments.get? t.db.payments.nextId)
    (fun _ c _ hp => State.step_payment hp c) hfirst after
  obtain ⟨request, hrequest, horder⟩ := State.run_order hfirstRequest after
  rw [hrun] at hpayment' hrequest
  obtain rfl := Option.some.inj (hpayment.symm.trans hpayment')
  simp only [Payment.terms, Prod.mk.injEq] at hterms
  have hid : payment.paymentRequestId = t.db.paymentRequests.nextId := hterms.1
  rw [hid] at hrequestId
  -- it did not fail at once
  have hstatus : v.status ≠ .failed := by
    intro hfailed
    obtain ⟨w, hw, hwcreated, hwstatus⟩ := hcommits.created
      (State.step_follows htoccurs.reachable.invariant env (.commitPayment c now))
    obtain ⟨hbarred, -⟩ := hcoccurs.barred
      ⟨w, hw, hwcreated.barred (hwstatus.trans hfailed)⟩ after
    rw [hrun] at hbarred
    exact hbarred ⟨payment, row, hpayment, hrow, hrequestId.trans hid.symm⟩
  obtain ⟨versionId, decision, hversion, hpassed, hdecided, hwaits⟩ := hjustified.passed hstatus
  obtain ⟨before, opened, call, between, rfl, hopen⟩ := run_opened (ht ▸ hcreation)
  have hextends := State.run_extends env (t.step env (.commitPayment c now)) after
  rw [hrun] at hextends
  have hasked := horder
  simp only [PaymentRequest.order, PaymentRequest.mk.injEq] at hasked
  obtain ⟨haccount, hagent, -, hamount, hcurrency, -, -, hversion', -⟩ := hasked
  refine ⟨payment, request, i, opened, t.db, hpayment, hid ▸ hrequest, ?_, ?_⟩
  · refine ⟨before, call, between, c, now, after, by simp, hopen, ?_⟩
    exact ⟨State.deciding_commitPayment hcreation now, rfl, hnone, hafter⟩
  · rw [hid]
    refine ⟨⟨haccount, hagent, ?_, hcurrency⟩,
      hcommits.covered (openPayment_accepted hopen) hextends horder,
      ⟨versionId, decision, hversion'.trans hversion, hpassed, hdecided, ?_⟩,
      ⟨row, hrow, hrequestId⟩, ?_⟩
    · rw [hamount]
      exact Money.units_store hcommits.stored
    · intro happroval
      obtain ⟨b, rfl⟩ := hwaits happroval
      exact hcommits.approved hknown hrun hoccurs.deliberate hrow hrequestId horder
    · intro row' hrow' hsame
      exact hoccurs.serves hrow' (hsame ▸ hrequest)

/-- A payment of 60 USD that has to be approved is approved at 950 and charged. -/
def Action.approveAndCharge : List Action :=
  Action.create 0 900 (.sample "key" 60) ++ [.approve 950 0 none (some "Bearer approver"),
    .mark 0 ⟨0, 1⟩, .read 0, .charge 0 ⟨.succeeded, some "ref"⟩]

theorem run_authorized_approved :
    let s := Machine.run (State.step Env.sample) (.start (.sample [.asking]))
      Action.approveAndCharge
    s.charged = [0] ∧ ∃ (payment : Payment) (request : PaymentRequest) (i : Intake) (opened : Time)
        (decided : Db), s.db.payments.get? 0 = some payment ∧
      s.db.paymentRequests.get? payment.paymentRequestId = some request ∧
      i.Creates Env.sample (.sample [.asking]) Action.approveAndCharge opened decided 0 ∧
      i.Authorizes Env.sample opened decided s.db payment.paymentRequestId request := by
  intro s
  have hcharged : s.charged = [0] := by decide +kernel
  refine ⟨hcharged, run_authorized (Db.sample_fresh [.asking]) Action.approveAndCharge 0 (.inr ?_)⟩
  exact hcharged ▸ List.mem_singleton_self 0

end AgentPay
