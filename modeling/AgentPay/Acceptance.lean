import AgentPay.Execution

/-!
# What creation decides

`create_payment` inserts its rows and then takes one of four ways: denied, without a budget, to an
approval, or with a reservation to the workers.
-/

namespace AgentPay

open Support

/-! ### The rows of a new payment -/

/-- The request row with its evidence. -/
def Intake.requestRow (i : Intake) (amount : Amount) (merchantId : Option MerchantId)
    (evidenceId : EvidenceId) : PaymentRequest :=
  { PaymentRepository.newRequest i.request.accountId i.request.agentId amount i.request.currency
      i.idempotencyKey (some i.fingerprint) merchantId with
    authorizationEvidenceId := some evidenceId, authorizationContextHash := i.context.digest }

/-- The rows that `create_payment` inserts before it decides. -/
structure Opens (db : Db) (i : Intake) (amount : Amount) (merchantId : Option MerchantId)
    (db' : Db) : Prop where
  stored : Amount.store i.request.amount.decimal = .ok amount
  free : db.paymentRequests.row? (i.request.accountId, i.idempotencyKey) = none
  requests : db'.paymentRequests.rows =
    db.paymentRequests.rows ++ [i.requestRow amount merchantId db.authorizationEvidence.length]
  payments : db'.payments.rows = db.payments.rows ++ [PaymentRepository.newPayment
    db.paymentRequests.nextId amount i.request.currency .policyCheck]
  evidence : db'.authorizationEvidence = db.authorizationEvidence ++
    [{ i.evidenceRow with paymentRequestId := some db.paymentRequests.nextId }]
  merchants : ∃ added, db'.merchants = db.merchants ++ added
  rest : db' = { db with
    merchants := db'.merchants, authorizationEvidence := db'.authorizationEvidence,
    paymentRequests := db'.paymentRequests, payments := db'.payments }

/-- The question that is put to the policy. -/
def Intake.question (i : Intake) (requestId : RequestId) : ControlRepository.PolicyQuestion :=
  { accountId := i.request.accountId, policyId := i.request.policyId, paymentRequestId := requestId,
    amount := i.request.amount.decimal, currency := i.request.currency,
    merchantDomain := (i.request.merchant.bind (·.domain)).getD "",
    category := i.request.merchant.bind (·.category) }

/-- The four ways of a payment that is inserted. -/
inductive Decides (env : Env) (now : Time) (db : Db) (i : Intake) (requestId : RequestId)
    (p : PaymentId) : CreateOutcome → Db → Prop where
  | denied {versionId evidence db₁}
      (heval : ControlRepository.evaluatePolicy db (i.question requestId) =
        .ok ((.deny, versionId, evidence), db₁)) :
      Decides env now db i requestId p
        (.deferred 403 "payment denied by policy")
        (enqueue (PaymentRepository.updateStatus db₁ p .failed none)
          (.paymentFailed p (.policyDenied versionId)))
  | unfunded {decision versionId evidence db₁}
      (heval : ControlRepository.evaluatePolicy db (i.question requestId) =
        .ok ((decision, versionId, evidence), db₁)) (hdecision : decision ≠ .deny)
      (hbudget : ControlRepository.selectBudget db₁ i.request.accountId i.request.budgetId
        i.request.currency (policyIdOf db₁ versionId) = none) :
      Decides env now db i requestId p
        (.deferred 409 "exactly one active compatible budget is required")
        (enqueue (PaymentRepository.updateStatus db₁ p .failed none)
          (.paymentFailed p (.budgetUnavailable versionId)))
  | waits {versionId evidence db₁ budgetId approvalId db₂}
      (heval : ControlRepository.evaluatePolicy db (i.question requestId) =
        .ok ((.requireApproval, versionId, evidence), db₁))
      (hbudget : ControlRepository.selectBudget db₁ i.request.accountId i.request.budgetId
        i.request.currency (policyIdOf db₁ versionId) = some budgetId)
      (happroval : ControlRepository.createApproval env now
        (ControlRepository.bindBudget db₁ requestId budgetId) requestId
        (some "policy requires approval") = .ok (approvalId, db₂)) :
      Decides env now db i requestId p (.returned p .approvalRequired (.asked approvalId))
        (enqueue (PaymentRepository.updateStatus db₂ p .approvalRequired none)
          (.approvalRequested p approvalId versionId budgetId))
  | starts {decision versionId evidence db₁ budgetId reservationId db₂}
      (heval : ControlRepository.evaluatePolicy db (i.question requestId) =
        .ok ((decision, versionId, evidence), db₁))
      (hdecision : decision = .allowAuto ∨ decision = .allowNotify)
      (hbudget : ControlRepository.selectBudget db₁ i.request.accountId i.request.budgetId
        i.request.currency (policyIdOf db₁ versionId) = some budgetId)
      (hprepare : PaymentOrchestrator.prepare
        (ControlRepository.bindBudget db₁ requestId budgetId) p requestId budgetId
        i.request.amount.decimal i.request.currency = .ok (reservationId, db₂)) :
      Decides env now db i requestId p (.returned p .processing (.decided decision evidence))
        (if decision = .allowNotify then
          enqueue db₂ (.notificationRequested p i.request.amount.decimal i.request.currency)
        else db₂)

/-- What `create_payment` decides when it returns. -/
lemma decidePayment_eq_ok {env : Env} {now : Time} {db db' : Db} {i : Intake}
    {requestId : RequestId} {p : PaymentId} {outcome : CreateOutcome}
    (hrun : decidePayment env now db i requestId p = .ok (outcome, db')) :
    Decides env now db i requestId p outcome db' := by
  simp only [decidePayment] at hrun
  split at hrun
  · rename_i message heq
    exact absurd heq ControlRepository.evaluatePolicy_ne_lookupError
  · cases hrun
  rename_i decision versionId evidence db₁ heval
  by_cases hdeny : decision = .deny
  · subst hdeny
    rw [if_pos rfl] at hrun
    obtain ⟨rfl, rfl⟩ := Prod.mk.inj (Except.ok.inj hrun)
    exact .denied heval
  rw [if_neg hdeny] at hrun
  split at hrun
  · rename_i hbudget
    obtain ⟨rfl, rfl⟩ := Prod.mk.inj (Except.ok.inj hrun)
    exact .unfunded heval hdeny hbudget
  rename_i budgetId hbudget
  by_cases hask : decision = .requireApproval
  · subst hask
    rw [if_pos rfl] at hrun
    obtain ⟨⟨approvalId, db₂⟩, happroval, hrun⟩ := Except.bind_eq_ok.mp hrun
    obtain ⟨rfl, rfl⟩ := Prod.mk.inj (Except.ok.inj hrun)
    exact .waits heval hbudget happroval
  · rw [if_neg hask] at hrun
    obtain ⟨⟨reservationId, db₂⟩, hprepare, hrun⟩ := Except.bind_eq_ok.mp hrun
    obtain ⟨rfl, rfl⟩ := Prod.mk.inj (Except.ok.inj hrun)
    refine .starts heval ?_ hbudget hprepare
    cases decision <;> simp_all

/-- The merchant it returns is a row. -/
lemma PaymentRepository.merchant_lt (db : Db) (name : String) (domain : Option String) :
    ∀ m ∈ (merchant db name domain).1, m < (merchant db name domain).2.merchants.length := by
  intro m hm
  simp only [merchant] at hm ⊢
  split at hm
  · cases hm
  · split at hm
    · rename_i id hfound
      obtain rfl := Option.some.inj hm
      exact (List.findIdx?_eq_some_iff_getElem.mp hfound).1
    · obtain rfl := Option.some.inj hm
      simp

lemma insertReferences_lt {db db' : Db} {i : Intake} {merchantId : Option MerchantId}
    {evidenceId : EvidenceId} (hrun : insertReferences db i = (merchantId, evidenceId, db')) :
    ∀ m ∈ merchantId, m < db'.merchants.length := by
  simp only [insertReferences] at hrun
  cases hm : i.request.merchant with
  | none =>
    rw [hm] at hrun
    obtain ⟨rfl, -⟩ := Prod.mk.inj hrun
    exact fun m hm => absurd hm (Option.not_mem_none m)
  | some body =>
    rw [hm] at hrun
    obtain ⟨rfl, hrest⟩ := Prod.mk.inj hrun
    obtain ⟨-, rfl⟩ := Prod.mk.inj hrest
    exact PaymentRepository.merchant_lt db body.name body.domain

/-- The two ways `acceptPayment` returns: the answer of the row that holds the key, with nothing
but a merchant and an evidence row written, or a new payment that is decided. -/
theorem acceptPayment_cases {env : Env} {now : Time} {db db' : Db} {i : Intake}
    {outcome : CreateOutcome} (hrun : acceptPayment env now db i = .ok (outcome, db')) :
    (∃ requestId existing added,
        PaymentRepository.findByIdempotency db i.request.accountId i.idempotencyKey =
          some (requestId, existing) ∧
        replay db i.fingerprint requestId existing = .ok outcome ∧
        db' = { db with
          merchants := db.merchants ++ added
          authorizationEvidence := db.authorizationEvidence ++ [i.evidenceRow] }) ∨
      ∃ amount merchantId opened, Opens db i amount merchantId opened ∧
        (∀ m ∈ merchantId, m < opened.merchants.length) ∧
        Decides env now opened i db.paymentRequests.nextId db.payments.nextId outcome db' := by
  obtain ⟨merchantId, evidenceId, db₁, hrefs, hcase⟩ := acceptPayment_eq_ok hrun
  have hknown := insertReferences_lt hrefs
  obtain ⟨rfl, added, rfl⟩ := insertReferences_appends hrefs
  rcases hcase with ⟨requestId, existing, hfind, hreplay, rfl⟩ |
    ⟨requestId, db₂, p, db₃, hrequest, hpayment, hdecide⟩
  · exact .inl ⟨requestId, existing, added, hfind, hreplay, rfl⟩
  obtain ⟨amount, requests, hstored, hfree, hrows, rfl, rfl⟩ :=
    PaymentRepository.createRequest_eq_ok hrequest
  obtain ⟨amount', payments, hstored', hprows, rfl, rfl⟩ :=
    PaymentRepository.createPayment_eq_ok hpayment
  obtain rfl := Except.ok.inj (hstored.symm.trans hstored')
  refine .inr ⟨amount, merchantId, _, ⟨hstored, hfree, ?_, hprows, ?_, ⟨added, rfl⟩, rfl⟩,
    ?_, decidePayment_eq_ok hdecide⟩
  · refine (congrArg (List.modify · _ _) hrows).trans ?_
    exact modify_length_append _ _ _
  · exact modify_length_append _ _ _
  · exact hknown

/-! ### The budgets -/

lemma Db.BudgetsAgree.congr {db db' : Db} (h : db.BudgetsAgree)
    (hbudgets : db'.budgets = db.budgets)
    (hreservations : db'.budgetReservations = db.budgetReservations) : db'.BudgetsAgree := by
  rw [Db.BudgetsAgree, hbudgets, hreservations]
  exact h

/-- A new reservation is counted. -/
lemma BudgetRepository.reserve_agree {db db' : Db} {budgetId : BudgetId} {i : RequestId}
    {amount : Decimal} {id : ReservationId}
    (hrun : reserve db budgetId i amount = .ok (some id, db')) (h : db.BudgetsAgree) :
    db'.BudgetsAgree := by
  obtain ⟨row, stored, reservations, budgets, hrow, hrefuses, hstored, hrows, -, rfl, rfl⟩ :=
    reserve_eq_ok hrun
  have hcovers := BudgetRows.covers_of_accepts (Bool.eq_false_iff.mp hrefuses)
  obtain ⟨hreserved, hlimit⟩ := BudgetRows.addReserved_sound hstored hcovers
  have hunits := Amount.store_eq_ok.mp hstored
  intro id b hb
  have hb : (db.budgets.modify budgetId (·.addReserved amount))[id]? = some b := hb
  have hsum : ∀ status, reservedUnder reservations.rows id status =
      reservedUnder db.budgetReservations.rows id status +
        if budgetId = id ∧ .reserved = status then stored.units else 0 := by
    intro status
    simp [reservedUnder, hrows]
  show _ = reservedUnder reservations.rows id _ ∧ _ = reservedUnder reservations.rows id _ ∧ _
  rw [hsum, hsum]
  by_cases hid : budgetId = id
  · subst hid
    obtain rfl : row.addReserved amount = b := by simpa [hrow] using hb
    obtain ⟨h₁, h₂, h₃⟩ := h budgetId row hrow
    have hconsumed : (row.addReserved amount).consumedAmount = row.consumedAmount := rfl
    refine ⟨?_, ?_, ?_⟩
    · rw [if_pos ⟨rfl, rfl⟩, ← h₁]
      omega
    · rw [if_neg (by simp), ← h₂, hconsumed, add_zero]
    · rw [BudgetRows.Covers, add_zero] at hlimit
      exact_mod_cast hlimit
  · rw [List.getElem?_modify_ne _ _ hid] at hb
    simpa [hid] using h id b hb

lemma PaymentOrchestrator.prepare_agree {db db' : Db} {p : PaymentId} {i : RequestId}
    {budgetId : BudgetId} {amount : Decimal} {currency : String} {id : ReservationId}
    (hrun : prepare db p i budgetId amount currency = .ok (id, db')) (h : db.BudgetsAgree) :
    db'.BudgetsAgree := by
  obtain ⟨payment, request, db₁, -, -, -, -, -, -, -, hreserve, rfl⟩ := prepare_eq_ok hrun
  exact (BudgetRepository.reserve_agree hreserve h).congr rfl rfl

lemma ControlRepository.evaluatePolicy_eq_ok {db db' : Db} {q : PolicyQuestion}
    {decision : Decision} {versionId : Option PolicyVersionId} {evidence : PolicyEvidence}
    (hrun : evaluatePolicy db q = .ok ((decision, versionId, evidence), db')) :
    (activePolicy db q.accountId q.policyId = none ∧ decision = .deny ∧ versionId = none ∧
        db' = db) ∨
      ∃ row policy, activePolicy db q.accountId q.policyId = some row ∧ row.rules = some policy ∧
        decision = (policy.evaluateWithTrace q.intent q.category).decision ∧
        versionId = some row.versionId ∧
        db' = { db with
          paymentRequests := db.paymentRequests.update q.paymentRequestId
            (fun r => { r with policyVersionId := some row.versionId }) fun _ => rfl } := by
  simp only [evaluatePolicy] at hrun
  split at hrun
  · rename_i hnone
    obtain ⟨hd, rfl⟩ := Prod.mk.inj (Except.ok.inj hrun)
    obtain ⟨rfl, hrest⟩ := Prod.mk.inj hd
    obtain ⟨rfl, rfl⟩ := Prod.mk.inj hrest
    exact .inl ⟨hnone, rfl, rfl, rfl⟩
  · rename_i row hrow
    split at hrun
    · cases hrun
    rename_i policy hpolicy
    obtain ⟨hd, rfl⟩ := Prod.mk.inj (Except.ok.inj hrun)
    obtain ⟨rfl, hrest⟩ := Prod.mk.inj hd
    obtain ⟨rfl, rfl⟩ := Prod.mk.inj hrest
    exact .inr ⟨row, policy, hrow, hpolicy, rfl, rfl, rfl⟩

lemma ControlRepository.evaluatePolicy_agree {db db' : Db} {q : PolicyQuestion}
    {decision : Decision × Option PolicyVersionId × PolicyEvidence}
    (hrun : evaluatePolicy db q = .ok (decision, db')) (h : db.BudgetsAgree) :
    db'.BudgetsAgree := by
  rcases evaluatePolicy_eq_ok hrun with ⟨-, -, -, rfl⟩ | ⟨row, policy, -, -, -, -, rfl⟩
  · exact h
  · exact h.congr rfl rfl

lemma ControlRepository.createApproval_eq_ok {env : Env} {now : Time} {db db' : Db}
    {requestId : RequestId} {reason : Option String} {id : ApprovalId}
    (hrun : createApproval env now db requestId reason = .ok (id, db')) :
    ∃ request, db.paymentRequests.get? requestId = some request ∧ id = db.approvals.length ∧
      db' = { db with approvals := db.approvals ++
        [{ paymentRequestId := requestId, status := .pending, expiresAt := some (now + 15 * 60),
           approvedBy := none, reason,
           intentDigest := (bindingOf db requestId request).digest env }] } := by
  simp only [createApproval] at hrun
  split at hrun
  · cases hrun
  rename_i request hrequest
  obtain ⟨rfl, rfl⟩ := Prod.mk.inj (Except.ok.inj hrun)
  exact ⟨request, hrequest, rfl, rfl⟩

lemma Opens.agree {db opened : Db} {i : Intake} {amount : Amount} {merchantId : Option MerchantId}
    (h : Opens db i amount merchantId opened) (hagree : db.BudgetsAgree) : opened.BudgetsAgree := by
  rw [h.rest]
  exact hagree.congr rfl rfl

lemma Decides.agree {env : Env} {now : Time} {db db' : Db} {i : Intake} {requestId : RequestId}
    {p : PaymentId} {outcome : CreateOutcome} (h : Decides env now db i requestId p outcome db')
    (hagree : db.BudgetsAgree) : db'.BudgetsAgree := by
  cases h with
  | denied heval | unfunded heval =>
    exact (ControlRepository.evaluatePolicy_agree heval hagree).congr rfl rfl
  | waits heval hbudget happroval =>
    obtain ⟨request, -, -, rfl⟩ := ControlRepository.createApproval_eq_ok happroval
    exact (ControlRepository.evaluatePolicy_agree heval hagree).congr rfl rfl
  | starts heval hdecision hbudget hprepare =>
    have h₁ := (ControlRepository.evaluatePolicy_agree heval hagree)
    have h₂ := PaymentOrchestrator.prepare_agree hprepare (h₁.congr rfl rfl)
    split_ifs
    · exact h₂.congr rfl rfl
    · exact h₂

lemma approvePayment_agree {env : Env} {now : Time} {db db' : Db} {id : ApprovalId}
    {reason authorization : Option String} {x : PaymentId × PaymentStatus}
    (hrun : approvePayment env now db id reason authorization = .ok (x, db'))
    (h : db.BudgetsAgree) : db'.BudgetsAgree := by
  obtain ⟨p, status⟩ := x
  obtain ⟨actor, approval, request, payment, budgetId, reservationId, db₁, -, -, -, -, -, -,
    hprepare, rfl⟩ := approvePayment_eq_ok hrun
  exact (PaymentOrchestrator.prepare_agree hprepare (h.congr rfl rfl)).congr rfl rfl

lemma denyPayment_agree {env : Env} {db db' : Db} {id : ApprovalId}
    {reason authorization : Option String} {x : PaymentId × PaymentStatus}
    (hrun : denyPayment env db id reason authorization = .ok (x, db')) (h : db.BudgetsAgree) :
    db'.BudgetsAgree := by
  obtain ⟨p, status⟩ := x
  obtain ⟨actor, approval, request, payment, -, -, -, rfl⟩ := denyPayment_eq_ok hrun
  exact h.congr rfl rfl

/-- What a unit of work keeps whenever it returns, it keeps. -/
lemma Db.commit_keeps {α : Type} {I : Db → Prop} {db : Db} (h : I db)
    {body : Except Error (α × Db)} (hbody : ∀ x db', body = .ok (x, db') → I db') :
    I (db.commit (body.map (·.2))) := by
  cases body with
  | error e => exact h
  | ok r => exact hbody r.1 r.2 rfl

/-! ### What a step writes -/

/-- The steps that execute what was decided and enqueue nothing. -/
def Action.executes : Action → Bool
  | .mark _ _ | .webhook _ _ | .capture _ _ _ _ _ | .void _ _ _ _ | .refund _ _ _ _ _ | .settle _ =>
    true
  | _ => false

/-- The ways a step changes the database: not at all, as an operator configures it, by executing
what was decided, or by a decision. -/
inductive State.Writes (env : Env) (s : State) : Action → Db → Prop where
  | nothing {a} : Writes env s a s.db
  | configures (c : Configuration) :
      Writes env s (.configure c) { s.db with
        policies := c.policies, policyVersions := c.policyVersions, wallets := c.wallets,
        ledgerAccounts := c.ledgerAccounts,
        paymentProviderAccounts := c.paymentProviderAccounts }
  | executes {a db} (ha : a.executes = true) (h : Executes [] s.db db) : Writes env s a db
  | finalizes {w c answer db} (hw : s.workers[w]? = some (.answered c answer))
      (h : Executes [answer.outcome.event c.paymentId c.reservationId c.amount.toDecimal
        c.currency] s.db db) : Writes env s (.finalize w) db
  | replays {a} (i : Intake) (added : List Merchant) :
      Writes env s a { s.db with
        merchants := s.db.merchants ++ added
        authorizationEvidence := s.db.authorizationEvidence ++ [i.evidenceRow] }
  | accepts {now c i amount merchantId opened outcome db}
      (hcreation : s.creations[c]? = some (.inserted i))
      (hopens : Opens s.db i amount merchantId opened)
      (hdecides : Decides env now opened i s.db.paymentRequests.nextId s.db.payments.nextId
        outcome db) : Writes env s (.commitPayment c now) db
  | approves {now id reason authorization x db}
      (hrun : approvePayment env now s.db id reason authorization = .ok (x, db)) :
      Writes env s (.approve now id reason authorization) db
  | denies {id reason authorization x db}
      (hrun : denyPayment env s.db id reason authorization = .ok (x, db)) :
      Writes env s (.deny id reason authorization) db

namespace State

variable {env : Env} {s : State}

/-- The transaction of a creation that holds its key creates a payment, or replays one. -/
lemma accepted_writes {now : Time} {c : ℕ} {i : Intake}
    (hcreation : s.creations[c]? = some (.inserted i)) :
    Writes env s (.commitPayment c now) (s.accepted env now c i).db := by
  simp only [accepted]
  split
  · rename_i outcome db hrun
    rcases acceptPayment_cases hrun with ⟨-, -, added, -, -, rfl⟩ |
      ⟨amount, merchantId, opened, hopens, -, hdecides⟩
    · exact .replays i added
    · exact .accepts hcreation hopens hdecides
  · exact .nothing

/-- A creation that finds its key taken replays the payment there is. -/
lemma accepted_replays {now : Time} {c : ℕ} {i : Intake} {x : RequestId × PaymentRequest}
    (hfound : PaymentRepository.findByIdempotency s.db i.request.accountId i.idempotencyKey =
      some x) (a : Action) : Writes env s a (s.accepted env now c i).db := by
  simp only [accepted]
  split
  · rename_i outcome db hrun
    rcases acceptPayment_cases hrun with ⟨-, -, added, -, -, rfl⟩ |
      ⟨amount, merchantId, opened, hopens, -⟩
    · exact .replays i added
    · obtain ⟨hget, hkey⟩ := Table.find?_eq_some.mp hfound
      exact absurd hkey (Table.row?_eq_none.mp hopens.free _ (Table.mem_of_get? hget))
  · exact .nothing

/-- A unit of work writes what its body does, or nothing. -/
lemma commit_writes {α : Type} {a : Action} {body : Except Error (α × Db)}
    (hbody : ∀ x db, body = .ok (x, db) → Writes env s a db) :
    Writes env s a (s.commit body).db :=
  Db.commit_keeps (I := Writes env s a) .nothing hbody

/-- Every step writes in one of these ways. -/
theorem step_writes (env : Env) (s : State) (a : Action) : Writes env s a (s.step env a).db := by
  cases a with
  | configure c => exact .configures c
  | mark p accounts =>
    simp only [step]
    split
    · rename_i claim db hrun
      exact .executes rfl (Worker.mark_executes hrun)
    · exact .nothing
  | finalize w =>
    simp only [step]
    split
    · rename_i c answer hw
      refine commit_writes fun status db hrun => ?_
      rcases PaymentOrchestrator.finalize_executes hrun with rfl | hexecutes
      · exact .nothing
      · exact .finalizes hw hexecutes
    · exact .nothing
  | webhook now delivery =>
    exact commit_writes fun _ _ hrun => .executes rfl (providerWebhook_executes hrun)
  | capture p amount currency accounts outcome =>
    exact commit_writes fun _ _ hrun => .executes rfl (PaymentLifecycle.capture_executes hrun)
  | void p amount currency outcome =>
    exact commit_writes fun _ _ hrun => .executes rfl (PaymentLifecycle.void_executes hrun)
  | refund p amount currency accounts outcome =>
    exact commit_writes fun _ _ hrun => .executes rfl (PaymentLifecycle.refund_executes hrun)
  | settle report =>
    exact commit_writes fun _ _ hrun => .executes rfl (SettlementRepository.ingest_executes hrun)
  | insertRequest c now =>
    simp only [step]
    split
    · rename_i i _
      simp only [insert]
      split_ifs
      · exact .nothing
      · split
        · rename_i x hfound
          exact accepted_replays hfound _
        · exact .nothing
    · exact .nothing
  | commitPayment c now =>
    simp only [step]
    split
    · rename_i i hinserted
      exact accepted_writes hinserted
    · exact .nothing
  | approve now id reason authorization => exact commit_writes fun _ _ hrun => .approves hrun
  | deny id reason authorization => exact commit_writes fun _ _ hrun => .denies hrun
  | read w | charge w answer =>
    simp only [step]
    split <;> (try split) <;> exact .nothing
  | openPayment now call =>
    simp only [step]
    split <;> exact .nothing
  | abandonPayment c => exact .nothing

/-- Every step of the system keeps the counters of the budgets. -/
theorem step_budgetsAgree (h : s.db.BudgetsAgree) (a : Action) :
    (s.step env a).db.BudgetsAgree := by
  have hwrites := step_writes env s a
  generalize (s.step env a).db = db at hwrites
  cases hwrites with
  | nothing => exact h
  | configures c => exact h
  | executes _ hexecutes | finalizes _ hexecutes => exact hexecutes.agree h
  | replays i added => exact h.congr rfl rfl
  | accepts hcreation hopens hdecides => exact hdecides.agree (hopens.agree h)
  | approves hrun => exact approvePayment_agree hrun h
  | denies hrun => exact denyPayment_agree hrun h

end State

/-! ### Reachable states -/

/-- A state that some run reaches from a database with nothing on the books. -/
def State.Reachable (env : Env) (s : State) : Prop :=
  ∃ (db : Db) (as : List Action), db.Blank ∧ db.BudgetsAgree ∧
    Machine.run (step env) (.start db) as = s

lemma State.Reachable.invariant {env : Env} {s : State} (h : s.Reachable env) : s.Invariant := by
  obtain ⟨db, as, hblank, -, rfl⟩ := h
  exact Machine.run_invariant (I := State.Invariant) (fun _ a hs => step_invariant hs a)
    hblank.invariant as

lemma State.Reachable.budgetsAgree {env : Env} {s : State} (h : s.Reachable env) :
    s.db.BudgetsAgree := by
  obtain ⟨db, as, -, hagree, rfl⟩ := h
  exact Machine.run_invariant (I := fun s : State => s.db.BudgetsAgree)
    (fun _ a hs => step_budgetsAgree hs a) hagree as

/-- What holds of untouched and of created payments, and is kept by the machine, holds of every
payment of a reachable state. -/
theorem State.Reachable.views {J : PaymentView → Prop} (hblank : ∀ v, v.Blank → J v)
    (hcreated : ∀ v, v.Created → J v)
    (hstep : ∀ op v v', v.Regular → J v → PaymentStep op v v' → J v') {env : Env} {s : State}
    (h : s.Reachable env) {p : PaymentId} {v : PaymentView} (hv : view s.db p = some v) : J v := by
  obtain ⟨db, as, hdb, -, rfl⟩ := h
  have hstart : (start db).Views J := ⟨hdb.invariant, fun p v hv => hblank v (hdb.view hv)⟩
  refine (Machine.run_invariant (I := Views J) (fun s a hs => ?_) hstart as).2 p v hv
  exact step_views (C := fun _ _ => True) hcreated
    (fun op v v' hregular hJ _ => hstep op v v' hregular hJ) hs fun _ _ _ _ => trivial

lemma Db.seeded_budgetsAgree (status : PaymentStatus) (reservation : Option ReservationStatus) :
    (seeded status reservation).BudgetsAgree := by
  intro id b hb
  obtain ⟨rfl, hb⟩ : id = 0 ∧ (seeded status reservation).budgets[0]? = some b := by
    cases id with
    | zero => exact ⟨rfl, hb⟩
    | succ id => cases hb
  obtain rfl := Option.some.inj hb
  cases reservation with
  | none => simp [reservedUnder, seeded]
  | some r => cases r <;> simp [reservedUnder, seeded, Amount.seeded]

/-! ### A sample account -/

mutual

/-- `json.dumps`, without escapes. -/
def Json.dumps : Json → String
  | .null => "null"
  | .text value => "\"" ++ value ++ "\""
  | .number value => toString value
  | .array items => "[" ++ Json.dumpsItems items ++ "]"
  | .object fields => "\x7b" ++ Json.dumpsFields fields ++ "\x7d"

def Json.dumpsItems : List Json → String
  | [] => ""
  | item :: items => Json.dumps item ++ "," ++ Json.dumpsItems items

def Json.dumpsFields : List (String × Json) → String
  | [] => ""
  | (name, value) :: fields =>
    "\"" ++ name ++ "\":" ++ Json.dumps value ++ "," ++ Json.dumpsFields fields

end

/-- An environment with one agent, one approver, and one assertion that is good for 1000 USD until
time 1000. A digest is the text it would be taken of. -/
def Env.sample : Env where
  assertionConfigured := true
  decodeAssertion assertion now :=
    if assertion = "assertion" ∧ now < 1000 then
      some { evidenceId := "evidence", iss := "issuer", protocolVersion := "atf/v1",
             decision := "ALLOW", action := "PAYMENT", revocationStatus := "VALID",
             subjectAgent := "agent", accountId := "account", delegationId := none,
             scope := .absent, maxAmount := some ⟨1000, 0⟩, currency := "USD", exp := 1000,
             version := "1" }
    else none
  sha256 s := s
  digest := Json.dumps
  resolveBearer token :=
    if token = "token" then .ok ⟨"agent", "account", ["payments:create"]⟩
    else .error (.permissionError "invalid token")
  resolveApprovalBearer token :=
    if token = some "approver" then .ok "approver" else .error (.permissionError "invalid token")
  replayWindow := some 0
  locksOuterJoins := true

/-- One account with a wallet, a budget of 100 USD, a provider account, and a policy for each of
the rules. -/
def Db.sample (rules : List SpendingPolicy) : Db where
  merchants := []
  policies := rules.map fun _ => ⟨"account", true, 0⟩
  policyVersions := rules.zipIdx.map fun (rules, policyId) => ⟨policyId, 1, some rules, true⟩
  wallets := [⟨"account", "USD", true⟩]
  ledgerAccounts := [⟨some 0⟩, ⟨none⟩]
  paymentProviderAccounts := [⟨"mock", "USD", 1, true⟩]
  budgets :=
    [{ accountId := "account", policyId := none, currency := "USD", limitAmount := 1000000,
       consumedAmount := 0, reservedAmount := 0, active := true }]
  budgetReservations := .empty
  authorizationEvidence := []
  paymentRequests := .empty
  payments := .empty
  approvals := []
  providerOperations := .empty
  providerEvents := .empty
  transactions := .empty
  ledgerJournals := .empty
  outboxEvents := []
  settlements := .empty
  reconciliationRecords := []

/-- A policy that limits a transaction to 500 USD. -/
def SpendingPolicy.sample : SpendingPolicy := { perTransactionLimit := .finite ⟨500, 0⟩ }

/-- A call that asks for `digits` USD under a key. -/
def CreateCall.sample (key : String) (digits : ℕ) : CreateCall where
  request :=
    { agentId := "agent", accountId := "account", policyId := none, budgetId := none,
      merchant := none, amount := ⟨digits, 0, "USD", by decide⟩, purpose := "purpose", items := [],
      authorizationEvidence := some
        { evidenceId := "evidence", issuer := "issuer", evidenceType := "atf",
          delegationId := none, scope := [], maxAmount := none, currency := none,
          expiresAt := none, digest := none, version := none,
          signedAssertion := some "assertion" } }
  idempotencyKey := some key
  authorization := some "Bearer token"

lemma Db.sample_blank (rules : List SpendingPolicy) : (sample rules).Blank :=
  ⟨⟨nofun, nofun, nofun, nofun, nofun, nofun, nofun⟩, rfl, rfl, rfl, rfl⟩

lemma Db.sample_budgetsAgree (rules : List SpendingPolicy) : (sample rules).BudgetsAgree := by
  intro id b hb
  have hb : [(⟨"account", none, "USD", 1000000, 0, 0, true, none, none⟩ : Budget)][id]? = some b :=
    hb
  obtain ⟨rfl, rfl⟩ : id = 0 ∧ _ = b := by
    simpa [List.getElem?_cons, eq_comm, ite_eq_iff] using hb
  simp [reservedUnder, sample]

/-- The three steps of a creation that meets no competitor. -/
def Action.create (creation : ℕ) (now : Time) (call : CreateCall) : List Action :=
  [.openPayment now call, .insertRequest creation now, .commitPayment creation now]

end AgentPay
