import AgentPay.WebhookRecovery

/-!
# What a unit of work has written when it raises

`prepare` and `approve_payment` record a failure and then raise. The model of the two drops these
writes; here they are kept, up to the exception, and `UnitOfWork` rolls them back.
-/

namespace AgentPay

open Support

/-! ### Bodies -/

/-- The body of a unit of work: what it returns or raises, and the rows as they are by then. -/
abbrev Body (α : Type) := Except Error α × Db

/-- An exception ends the body. -/
def Body.bind {α β : Type} (body : Body α) (rest : α → Db → Body β) : Body β :=
  match body with
  | (.ok a, db)    => rest a db
  | (.error e, db) => (.error e, db)

/-- `UnitOfWork.__exit__` -/
def UnitOfWork {α : Type} (db : Db) (body : Body α) : Body α :=
  match body with
  | (.ok a, db')   => (.ok a, db')
  | (.error e, _)  => (.error e, db)

/-- The body does what `run` says, and raises what `run` raises. -/
def Body.Does {α : Type} (body : Body α) : Except Error (α × Db) → Prop
  | .ok (a, db) => body = (.ok a, db)
  | .error e    => body.1 = .error e

/-- Past `UnitOfWork` the writes before an exception are gone. -/
lemma Body.Does.unitOfWork {α : Type} {body : Body α} {run : Except Error (α × Db)}
    (h : body.Does run) (db : Db) :
    UnitOfWork db body = (run.map (·.1), db.commit (run.map (·.2))) := by
  cases run with
  | error e =>
    obtain ⟨result, rows⟩ := body
    obtain rfl : result = .error e := h
    rfl
  | ok r =>
    obtain rfl : body = (.ok r.1, r.2) := h
    rfl

lemma Body.Does.raises {α : Type} {body : Body α} {run : Except Error (α × Db)}
    (h : body.Does run) {e : Error} (hraises : body.1 = .error e) : run = .error e := by
  cases run with
  | error e' => exact congrArg _ (Except.error.inj (h.symm.trans hraises))
  | ok r =>
    obtain rfl : body = (.ok r.1, r.2) := h
    cases hraises

lemma Body.Does.bind {α β : Type} {body : Body α} {run : Except Error (α × Db)}
    (h : body.Does run) {rest : α → Db → Body β} {rest' : α × Db → Except Error (β × Db)}
    (hrest : ∀ a db, (rest a db).Does (rest' (a, db))) :
    (body.bind rest).Does (run >>= rest') := by
  cases run with
  | error e =>
    obtain ⟨result, rows⟩ := body
    obtain rfl : result = .error e := h
    rfl
  | ok r =>
    obtain rfl : body = (.ok r.1, r.2) := h
    exact hrest r.1 r.2

/-! ### The failure branches -/

/-- `prepare`, with the writes before its last exception. -/
def PaymentOrchestrator.prepareBody (db : Db) (paymentId : PaymentId) (requestId : RequestId)
    (budgetId : BudgetId) (amount : Decimal) (currency : String) : Body ReservationId :=
  match db.payments.get? paymentId, db.paymentRequests.get? requestId with
  | some payment, some request =>
    if payment.paymentRequestId ≠ requestId then
      (.error (.valueError "payment and payment request binding is invalid"), db)
    else if ((request.authorizationEvidenceId.bind (db.authorizationEvidence[·]?)).map
        (·.verificationStatus)) ≠ some .verified then
      (.error (.permissionError "verified authorization evidence is required before execution"), db)
    else if request.amount.toDecimal.units ≠ amount.units ∨
        normCurrency request.currency ≠ upper currency then
      (.error (.valueError "execution amount/currency does not match payment intent"), db)
    else if payment.status ∈ [.succeeded, .failed, .cancelled, .voided, .refunded] then
      (.error (.valueError "payment is already terminal"), db)
    else
      match BudgetRepository.reserve db budgetId requestId amount with
      | .error e => (.error e, db)
      | .ok (none, db) =>
        let db := PaymentRepository.updateStatus db paymentId .failed none
        (.error (.valueError "budget insufficient"),
          enqueue db (.paymentFailed paymentId .budgetInsufficient))
      | .ok (some reservationId, db) =>
        let db := linkReservation db requestId reservationId
        let db := PaymentRepository.updateStatus db paymentId .processing none
        (.ok reservationId, enqueue db (.paymentStarted paymentId reservationId))
  | _, _ => (.error (.valueError "payment and payment request binding is invalid"), db)

/-- `create_payment` after the payment row is inserted. -/
def decideBody (env : Env) (now : Time) (db : Db) (i : Intake) (requestId : RequestId)
    (paymentId : PaymentId) : Body CreateOutcome :=
  match ControlRepository.evaluatePolicy db (i.question requestId) with
  | .error (.lookupError message) => (.ok (.deferred 403 message), db)
  | .error e => (.error e, db)
  | .ok ((decision, versionId, policyEvidence), db) =>
    if decision = .deny then
      let failed := failDeferred db paymentId (.policyDenied versionId) 403
        "payment denied by policy"
      (.ok failed.1, failed.2)
    else
      match ControlRepository.selectBudget db i.request.accountId i.request.budgetId
          i.request.currency (policyIdOf db versionId) with
      | none =>
        let failed := failDeferred db paymentId (.budgetUnavailable versionId) 409
          "exactly one active compatible budget is required"
        (.ok failed.1, failed.2)
      | some budgetId =>
        let db := ControlRepository.bindBudget db requestId budgetId
        if decision = .requireApproval then
          match ControlRepository.createApproval env now db requestId
              (some "policy requires approval") with
          | .error e => (.error e, db)
          | .ok (approvalId, db) =>
            let db := PaymentRepository.updateStatus db paymentId .approvalRequired none
            (.ok (.returned paymentId .approvalRequired (.asked approvalId)),
              enqueue db (.approvalRequested paymentId approvalId versionId budgetId))
        else
          (PaymentOrchestrator.prepareBody db paymentId requestId budgetId
            i.request.amount.decimal i.request.currency).bind fun _ db =>
              (.ok (.returned paymentId .processing (.decided decision policyEvidence)),
                if decision = .allowNotify then
                  enqueue db (.notificationRequested paymentId i.request.amount.decimal
                    i.request.currency)
                else db)

/-- The transaction of `create_payment` from the merchant row on. -/
def acceptBody (env : Env) (now : Time) (db : Db) (i : Intake) : Body CreateOutcome :=
  let (merchantId, evidenceId, db) := insertReferences db i
  match PaymentRepository.createRequest db i.request.accountId i.request.agentId
      i.request.amount.decimal i.request.currency i.idempotencyKey (some i.fingerprint)
      merchantId with
  | .error .uniqueViolation =>
    match PaymentRepository.findByIdempotency db i.request.accountId i.idempotencyKey with
    | none => (.error (.http 409 "idempotency key conflict could not be resolved"), db)
    | some (requestId, existing) => (replay db i.fingerprint requestId existing, db)
  | .error e => (.error e, db)
  | .ok (requestId, db) =>
    let db := linkEvidence db requestId evidenceId i.context.digest
    match PaymentRepository.createPayment db requestId i.request.amount.decimal
        i.request.currency .policyCheck with
    | .error e => (.error e, db)
    | .ok (paymentId, db) => decideBody env now db i requestId paymentId

/-- `approve_payment`, with the writes before its exceptions. -/
def approveBody (env : Env) (now : Time) (db : Db) (approvalId : ApprovalId)
    (reason : Option String) (authorization : Option String) : Body (PaymentId × PaymentStatus) :=
  match onPermissionError 401 (env.resolveApprovalBearer (bearerToken authorization)) with
  | .error e => (.error e, db)
  | .ok actor =>
    match db.approvals[approvalId]? with
    | none => (.error (.http 404 "approval not found"), db)
    | some approval =>
      if approval.status ≠ .pending then
        (.error (.http 409 "approval is no longer pending"), db)
      else if approval.expiresAt.any fun expiry => decide (expiry ≤ now) then
        (.error (.http 409 "approval has expired"),
          ControlRepository.setApproval db approvalId .expired actor (some "approval expired"))
      else
        match ControlRepository.paymentRequest env db approval.paymentRequestId with
        | .error e => (.error e, db)
        | .ok none => (.error (.http 404 "payment request not found"), db)
        | .ok (some (request, paymentId, payment)) =>
          if payment.status ≠ .approvalRequired then
            (.error (.http 409 "payment is not awaiting approval"), db)
          else
            match request.budgetId with
            | none => (.error (.http 409 "payment has no bound budget"), db)
            | some budgetId =>
              if approval.intentDigest ≠
                  (ControlRepository.bindingOf db approval.paymentRequestId request).digest env then
                (.error (.http 409 "approval binding no longer matches payment intent"), db)
              else
                let db := ControlRepository.setApproval db approvalId .approved actor reason
                (PaymentOrchestrator.prepareBody db paymentId approval.paymentRequestId budgetId
                  request.amount.toDecimal (normCurrency request.currency)).bind fun _ db =>
                    (.ok (paymentId, .processing),
                      enqueue db (.paymentApproved paymentId approvalId actor))

/-! ### They do what the model does -/

lemma PaymentOrchestrator.prepareBody_does (db : Db) (p : PaymentId) (i : RequestId)
    (budgetId : BudgetId) (amount : Decimal) (currency : String) :
    (prepareBody db p i budgetId amount currency).Does
      (prepare db p i budgetId amount currency) := by
  simp only [prepareBody, prepare]
  cases db.payments.get? p with
  | none => rfl
  | some payment =>
    cases db.paymentRequests.get? i with
    | none => rfl
    | some request =>
      dsimp only
      split_ifs
      · rfl
      · rfl
      · rfl
      · rfl
      · cases BudgetRepository.reserve db budgetId i amount with
        | error e => rfl
        | ok r =>
          obtain ⟨id, db₁⟩ := r
          cases id <;> rfl

lemma decideBody_does (env : Env) (now : Time) (db : Db) (i : Intake) (requestId : RequestId)
    (p : PaymentId) :
    (decideBody env now db i requestId p).Does (decidePayment env now db i requestId p) := by
  simp only [decideBody, decidePayment, Intake.question]
  generalize ControlRepository.evaluatePolicy db _ = evaluated
  cases evaluated with
  | error e => cases e <;> rfl
  | ok r =>
    obtain ⟨⟨decision, versionId, policyEvidence⟩, db₁⟩ := r
    dsimp only
    by_cases hdeny : decision = .deny
    · rw [if_pos hdeny, if_pos hdeny]
      rfl
    rw [if_neg hdeny, if_neg hdeny]
    cases ControlRepository.selectBudget db₁ i.request.accountId i.request.budgetId
      i.request.currency (policyIdOf db₁ versionId) with
    | none => rfl
    | some budgetId =>
      dsimp only
      by_cases hask : decision = .requireApproval
      · rw [if_pos hask, if_pos hask]
        cases ControlRepository.createApproval env now _ requestId _ <;> rfl
      · rw [if_neg hask, if_neg hask]
        refine (PaymentOrchestrator.prepareBody_does ..).bind ?_
        intro _ _
        rfl

lemma acceptBody_does (env : Env) (now : Time) (db : Db) (i : Intake) :
    (acceptBody env now db i).Does (acceptPayment env now db i) := by
  simp only [acceptBody, acceptPayment]
  obtain ⟨merchantId, evidenceId, db₁⟩ := insertReferences db i
  dsimp only
  generalize PaymentRepository.createRequest db₁ _ _ _ _ _ _ _ = created
  cases created with
  | error e =>
    cases e with
    | uniqueViolation =>
      cases PaymentRepository.findByIdempotency db₁ _ _ with
      | none => rfl
      | some found =>
        dsimp only
        cases replay db₁ i.fingerprint found.1 found.2 <;> rfl
    | _ => rfl
  | ok r =>
    dsimp only
    generalize PaymentRepository.createPayment _ _ _ _ _ = created
    cases created with
    | error e => rfl
    | ok r => exact decideBody_does ..

lemma approveBody_does (env : Env) (now : Time) (db : Db) (id : ApprovalId)
    (reason authorization : Option String) :
    (approveBody env now db id reason authorization).Does
      (approvePayment env now db id reason authorization) := by
  simp only [approveBody, approvePayment]
  cases onPermissionError 401 (env.resolveApprovalBearer (bearerToken authorization)) with
  | error e => rfl
  | ok actor =>
    show Body.Does _ (match db.approvals[id]? with | none => _ | some approval => _)
    cases db.approvals[id]? with
    | none => rfl
    | some approval =>
      dsimp only
      by_cases hpending : approval.status ≠ .pending
      · rw [if_pos hpending, if_pos hpending]
        rfl
      rw [if_neg hpending, if_neg hpending]
      by_cases hexpired : (approval.expiresAt.any fun expiry => decide (expiry ≤ now)) = true
      · rw [if_pos hexpired, if_pos hexpired]
        rfl
      rw [if_neg hexpired, if_neg hexpired]
      cases ControlRepository.paymentRequest env db approval.paymentRequestId with
      | error e => rfl
      | ok row =>
      cases row with
      | none => rfl
      | some found =>
        obtain ⟨request, p, payment⟩ := found
        dsimp only [bind, Except.bind]
        by_cases hwaiting : payment.status ≠ .approvalRequired
        · rw [if_pos hwaiting, if_pos hwaiting]
          rfl
        rw [if_neg hwaiting, if_neg hwaiting]
        cases request.budgetId with
        | none => rfl
        | some budgetId =>
          dsimp only
          split_ifs
          · rfl
          · refine (PaymentOrchestrator.prepareBody_does ..).bind ?_
            intro _ _
            rfl

/-- What an approval commits. -/
lemma State.step_approve (env : Env) (s : State) (now : Time) (id : ApprovalId)
    (reason authorization : Option String) :
    (s.step env (.approve now id reason authorization)).db =
      (UnitOfWork s.db (approveBody env now s.db id reason authorization)).2 :=
  (congrArg Prod.snd ((approveBody_does ..).unitOfWork s.db)).symm

/-- What a creation commits. -/
lemma State.accepted_db (env : Env) (s : State) (now : Time) (c : ℕ) (i : Intake) :
    (s.accepted env now c i).db = (UnitOfWork s.db (acceptBody env now s.db i)).2 := by
  rw [(acceptBody_does env now s.db i).unitOfWork, accepted]
  cases acceptPayment env now s.db i <;> rfl

/-! ### What is recorded and lost -/

/-- The request has found the budget insufficient. -/
def Body.Insufficient {α : Type} (body : Body α) : Prop :=
  body.1 = .error (.valueError "budget insufficient")

instance {α : Type} [DecidableEq α] (body : Body α) : Decidable body.Insufficient :=
  inferInstanceAs (Decidable (_ = _))

/-- The payment is FAILED, and its event says why. -/
structure RecordsInsufficiency (db : Db) (p : PaymentId) : Prop where
  status : ∃ payment, db.payments.get? p = some payment ∧ payment.status = .failed
  event : .paymentFailed p .budgetInsufficient ∈ db.outboxEvents

/-- The approval is EXPIRED. -/
def RecordsExpiry (db : Db) (id : ApprovalId) : Prop :=
  ∃ approval, db.approvals[id]? = some approval ∧ approval.status = .expired

/-- What a body raises past `UnitOfWork` leaves the database as it was. -/
lemma unitOfWork_of_raises {α : Type} {db : Db} {body : Body α} {e : Error}
    (h : body.1 = .error e) : (UnitOfWork db body).2 = db := by
  obtain ⟨result, rows⟩ := body
  obtain rfl : result = .error e := h
  rfl

lemma Amount.store_ne_valueError {d : Decimal} {message : String} :
    store d ≠ .error (.valueError message) := by
  intro h
  simp only [store] at h
  split_ifs at h <;> cases h

lemma PaymentRepository.createRequest_ne_valueError {db : Db} {accountId agentId : String}
    {amount : Decimal} {currency key : String} {fingerprint : Option String}
    {merchantId : Option MerchantId} {message : String} :
    createRequest db accountId agentId amount currency key fingerprint merchantId ≠
      .error (.valueError message) := by
  intro h
  simp only [createRequest] at h
  cases hstored : Amount.store amount with
  | error e =>
    rw [hstored] at h
    cases h
    exact Amount.store_ne_valueError hstored
  | ok stored =>
    rw [hstored] at h
    simp only [bind, Except.bind] at h
    split_ifs at h
    · split at h <;> cases h
    · cases h

lemma PaymentRepository.createPayment_ne_valueError {db : Db} {i : RequestId} {amount : Decimal}
    {currency : String} {status : PaymentStatus} {message : String} :
    createPayment db i amount currency status ≠ .error (.valueError message) := by
  intro h
  simp only [createPayment] at h
  cases hstored : Amount.store amount with
  | error e =>
    rw [hstored] at h
    cases h
    exact Amount.store_ne_valueError hstored
  | ok stored =>
    rw [hstored] at h
    simp only [bind, Except.bind] at h
    split at h <;> cases h

/-- `reserve` refuses without an exception. -/
lemma BudgetRepository.reserve_ne_valueError {db : Db} {budgetId : BudgetId} {i : RequestId}
    {amount : Decimal} {message : String} :
    reserve db budgetId i amount ≠ .error (.valueError message) := by
  intro h
  simp only [reserve] at h
  split at h
  · cases h
  split_ifs at h
  · cases h
  cases hstored : Amount.store amount with
  | error e =>
    rw [hstored] at h
    cases h
    exact Amount.store_ne_valueError hstored
  | ok stored =>
    rw [hstored] at h
    simp only [bind, Except.bind] at h
    split at h <;> cases h

/-- A budget that refuses leaves the rows alone. -/
lemma BudgetRepository.reserve_none {db db' : Db} {budgetId : BudgetId} {i : RequestId}
    {amount : Decimal} (h : reserve db budgetId i amount = .ok (none, db')) : db' = db := by
  simp only [reserve] at h
  split at h
  · exact (Prod.mk.inj (Except.ok.inj h)).2.symm
  split_ifs at h
  · exact (Prod.mk.inj (Except.ok.inj h)).2.symm
  obtain ⟨stored, -, h⟩ := Except.bind_eq_ok.mp h
  split at h
  · cases h
  · exact absurd (Prod.mk.inj (Except.ok.inj h)).1 (Option.some_ne_none _)

/-- `prepare` records that the budget is insufficient, and raises. -/
lemma PaymentOrchestrator.prepareBody_records {db : Db} {p : PaymentId} {i : RequestId}
    {budgetId : BudgetId} {amount : Decimal} {currency : String}
    (h : (prepareBody db p i budgetId amount currency).Insufficient) :
    RecordsInsufficiency (prepareBody db p i budgetId amount currency).2 p := by
  simp only [Body.Insufficient, prepareBody] at h ⊢
  cases hp : db.payments.get? p with
  | none => simp [hp] at h
  | some payment =>
    cases hr : db.paymentRequests.get? i with
    | none => simp [hp, hr] at h
    | some request =>
      simp only [hp, hr] at h ⊢
      split_ifs at h ⊢
      · simp at h
      · simp at h
      · simp at h
      · simp at h
      cases hreserve : BudgetRepository.reserve db budgetId i amount with
      | error e =>
        rw [hreserve] at h
        cases h
        exact absurd hreserve BudgetRepository.reserve_ne_valueError
      | ok r =>
        obtain ⟨id, db₁⟩ := r
        cases id with
        | some id =>
          rw [hreserve] at h
          cases h
        | none =>
          obtain rfl := BudgetRepository.reserve_none hreserve
          refine ⟨⟨PaymentRepository.withStatus .failed none payment, ?_, rfl⟩,
            List.mem_append_right _ (List.mem_singleton_self _)⟩
          refine (Table.get?_update_self db₁.payments p
            (PaymentRepository.withStatus .failed none) fun _ => rfl).trans ?_
          rw [hp]
          rfl

/-- A body that cannot raise after `body` finds the budget insufficient where `body` does. -/
lemma Body.Insufficient.of_bind {α β : Type} {body : Body α} {rest : α → Db → Body β}
    (hrest : ∀ a db, ∃ b, (rest a db).1 = .ok b) (h : (body.bind rest).Insufficient) :
    body.Insufficient ∧ (body.bind rest).2 = body.2 := by
  obtain ⟨result, db⟩ := body
  cases result with
  | error e => exact ⟨congrArg Except.error (Except.error.inj h), rfl⟩
  | ok a =>
    obtain ⟨b, hb⟩ := hrest a db
    cases hb.symm.trans h

lemma decideBody_records {env : Env} {now : Time} {db : Db} {i : Intake} {requestId : RequestId}
    {p : PaymentId} (h : (decideBody env now db i requestId p).Insufficient) :
    RecordsInsufficiency (decideBody env now db i requestId p).2 p := by
  simp only [decideBody] at h ⊢
  cases heval : ControlRepository.evaluatePolicy db (i.question requestId) with
  | error e =>
    rw [heval] at h
    obtain ⟨message, rfl⟩ | hraises : (∃ message, e = .lookupError message) ∨
        e = .valueError "invalid policy schedule" := by
      simp only [ControlRepository.evaluatePolicy] at heval
      split at heval
      · cases heval
      split at heval
      · exact .inr (Except.error.inj heval).symm
      · cases heval
    · cases h
    · subst hraises
      simp [Body.Insufficient] at h
  | ok r =>
    obtain ⟨⟨decision, versionId, policyEvidence⟩, db₁⟩ := r
    rw [heval] at h
    dsimp only at h ⊢
    by_cases hdeny : decision = .deny
    · rw [if_pos hdeny] at h
      cases h
    rw [if_neg hdeny] at h ⊢
    cases hbudget : ControlRepository.selectBudget db₁ i.request.accountId i.request.budgetId
      i.request.currency (policyIdOf db₁ versionId) with
    | none =>
      rw [hbudget] at h
      cases h
    | some budgetId =>
      rw [hbudget] at h
      dsimp only at h ⊢
      by_cases hask : decision = .requireApproval
      · rw [if_pos hask, ControlRepository.createApproval] at h
        split at h
        · rename_i e heq
          split at heq
          · cases heq
            simp [Body.Insufficient] at h
          · cases heq
        · cases h
      · rw [if_neg hask] at h ⊢
        obtain ⟨hprepare, hrows⟩ := Body.Insufficient.of_bind (fun _ _ => ⟨_, rfl⟩) h
        rw [hrows]
        exact PaymentOrchestrator.prepareBody_records hprepare

/-- A creation that finds the budget insufficient records it about the payment it has inserted. -/
lemma acceptBody_records {env : Env} {now : Time} {db : Db} {i : Intake}
    (h : (acceptBody env now db i).Insufficient) :
    RecordsInsufficiency (acceptBody env now db i).2 db.payments.nextId := by
  simp only [acceptBody] at h ⊢
  cases hrefs : insertReferences db i with
  | mk merchantId refs =>
  obtain ⟨evidenceId, db₁⟩ := refs
  obtain ⟨-, added, hdb₁⟩ := insertReferences_appends hrefs
  rw [hrefs] at h
  dsimp only at h ⊢
  cases hrequest : PaymentRepository.createRequest db₁ i.request.accountId i.request.agentId
      i.request.amount.decimal i.request.currency i.idempotencyKey (some i.fingerprint)
      merchantId with
  | error e =>
    rw [hrequest] at h
    cases e with
    | uniqueViolation =>
      dsimp only at h
      split at h
      · simp [Body.Insufficient] at h
      · simp only [Body.Insufficient, replay] at h
        split_ifs at h
        · simp at h
        · split at h <;> simp at h
    | valueError message => exact absurd hrequest PaymentRepository.createRequest_ne_valueError
    | _ => cases h
  | ok r =>
    obtain ⟨requestId, db₂⟩ := r
    rw [hrequest] at h
    dsimp only at h ⊢
    cases hpayment : PaymentRepository.createPayment
        (linkEvidence db₂ requestId evidenceId i.context.digest) requestId
        i.request.amount.decimal i.request.currency .policyCheck with
    | error e =>
      rw [hpayment] at h
      obtain rfl : e = .valueError "budget insufficient" := Except.error.inj h
      exact absurd hpayment PaymentRepository.createPayment_ne_valueError
    | ok r =>
      obtain ⟨p, db₃⟩ := r
      rw [hpayment] at h
      obtain ⟨amount, requests, -, -, -, -, rfl⟩ := PaymentRepository.createRequest_eq_ok hrequest
      obtain ⟨amount', payments, -, -, rfl, rfl⟩ := PaymentRepository.createPayment_eq_ok hpayment
      subst hdb₁
      exact decideBody_records h

/-- An approval that finds the budget insufficient records it about the payment of its request,
which was waiting for the approval. -/
lemma approveBody_records {env : Env} {now : Time} {db : Db} {id : ApprovalId}
    {reason authorization : Option String} {actor : String}
    (hactor : onPermissionError 401 (env.resolveApprovalBearer (bearerToken authorization)) =
      .ok actor)
    (h : (approveBody env now db id reason authorization).Insufficient) :
    ∃ p payment, approvalTarget db id = some p ∧ db.payments.get? p = some payment ∧
      payment.status = .approvalRequired ∧
      RecordsInsufficiency (approveBody env now db id reason authorization).2 p := by
  simp only [approveBody, hactor] at h ⊢
  cases happroval : db.approvals[id]? with
  | none => simp [happroval, Body.Insufficient] at h
  | some approval =>
    simp only [happroval] at h ⊢
    by_cases hpending : approval.status ≠ .pending
    · rw [if_pos hpending] at h
      simp [Body.Insufficient] at h
    rw [if_neg hpending] at h ⊢
    by_cases hexpired : (approval.expiresAt.any fun expiry => decide (expiry ≤ now)) = true
    · rw [if_pos hexpired] at h
      simp [Body.Insufficient] at h
    rw [if_neg hexpired] at h ⊢
    cases hfound : ControlRepository.paymentRequest env db approval.paymentRequestId with
    | error e =>
      obtain rfl := ControlRepository.paymentRequest_eq_error hfound
      simp [hfound, Body.Insufficient] at h
    | ok row =>
    cases row with
    | none => simp [hfound, Body.Insufficient] at h
    | some found =>
      obtain ⟨request, p, payment⟩ := found
      obtain ⟨-, hrow⟩ := ControlRepository.paymentRequest_eq_ok.mp hfound
      obtain ⟨-, hp, -⟩ := ControlRepository.requestRow_eq_some hrow
      have htarget : approvalTarget db id = some p := by simp [approvalTarget, happroval, hrow]
      simp only [hfound] at h ⊢
      by_cases hwaiting : payment.status ≠ .approvalRequired
      · rw [if_pos hwaiting] at h
        simp [Body.Insufficient] at h
      rw [if_neg hwaiting] at h ⊢
      refine ⟨p, payment, htarget, hp, not_not.mp hwaiting, ?_⟩
      cases hbudget : request.budgetId with
      | none => simp [hbudget, Body.Insufficient] at h
      | some budgetId =>
        simp only [hbudget] at h ⊢
        split_ifs at h ⊢
        · simp [Body.Insufficient] at h
        · obtain ⟨hprepare, hrows⟩ := Body.Insufficient.of_bind (fun _ _ => ⟨_, rfl⟩) h
          rw [hrows]
          exact PaymentOrchestrator.prepareBody_records hprepare

/-- An approval that meets an expired one records it, and raises. -/
lemma approveBody_expires {env : Env} {now : Time} {db : Db} {id : ApprovalId}
    {reason authorization : Option String} {actor : String} {approval : Approval} {expiry : Time}
    (hactor : onPermissionError 401 (env.resolveApprovalBearer (bearerToken authorization)) =
      .ok actor) (happroval : db.approvals[id]? = some approval)
    (hpending : approval.status = .pending) (hexpiry : approval.expiresAt = some expiry)
    (hnow : expiry ≤ now) :
    (approveBody env now db id reason authorization).1 =
        .error (.http 409 "approval has expired") ∧
      RecordsExpiry (approveBody env now db id reason authorization).2 id := by
  simp only [approveBody, hactor, happroval, hpending, hexpiry, Option.any_some, hnow,
    decide_true, if_true, ne_eq, not_true_eq_false, if_false, true_and]
  refine ⟨ControlRepository.decidedApproval .expired actor (some "approval expired") approval, ?_,
    rfl⟩
  simp [ControlRepository.setApproval, happroval]

/-! ### Failures are lost -/

/-- A failure that a request is to record. -/
inductive Failure where
  | insufficient (paymentId : PaymentId)
  | expired (approvalId : ApprovalId)
  deriving DecidableEq, Repr

/-- The failure is on record. -/
def Failure.Recorded (db : Db) : Failure → Prop
  | .insufficient p => RecordsInsufficiency db p
  | .expired id     => RecordsExpiry db id

/-- What a request of the state meets: `prepare` finds the budget insufficient, under
`create_payment` or under `approve_payment`, or a pending approval has expired. -/
inductive Failure.Met (env : Env) (s : State) : Action → Failure → Prop
  | create {c now i} (hopen : s.creations[c]? = some (.inserted i))
      (hbudget : (acceptBody env now s.db i).Insufficient) :
      Met env s (.commitPayment c now) (.insufficient s.db.payments.nextId)
  | approve {now id reason authorization actor p}
      (hactor : onPermissionError 401 (env.resolveApprovalBearer (bearerToken authorization)) =
        .ok actor) (htarget : approvalTarget s.db id = some p)
      (hbudget : (approveBody env now s.db id reason authorization).Insufficient) :
      Met env s (.approve now id reason authorization) (.insufficient p)
  | expired {now id reason authorization actor approval expiry}
      (hactor : onPermissionError 401 (env.resolveApprovalBearer (bearerToken authorization)) =
        .ok actor) (happroval : s.db.approvals[id]? = some approval)
      (hpending : approval.status = .pending) (hexpiry : approval.expiresAt = some expiry)
      (hnow : expiry ≤ now) :
      Met env s (.approve now id reason authorization) (.expired id)

/-- The rows as they are when the request raises, had they been committed. -/
def State.written (env : Env) (s : State) : Action → Db
  | .commitPayment c now =>
    match s.creations[c]? with
    | some (.inserted i) => (acceptBody env now s.db i).2
    | _ => s.db
  | .approve now id reason authorization =>
    (approveBody env now s.db id reason authorization).2
  | _ => s.db

/-- Every failure that a request meets is written, and rolled back with everything else: the
payment that found no budget is unknown or still waiting, and the approval is pending. -/
theorem Failure.Met.lost {env : Env} {s : State} {a : Action} {f : Failure} (h : f.Met env s a) :
    f.Recorded (s.written env a) ∧ (s.step env a).db = s.db ∧ ¬ f.Recorded (s.step env a).db := by
  cases h with
  | create hopen hbudget =>
    rename_i c now i
    have hdb : (s.step env (.commitPayment c now)).db = s.db := by
      simp only [State.step, hopen]
      rw [State.accepted_db, unitOfWork_of_raises hbudget]
    refine ⟨?_, hdb, ?_⟩
    · simp only [State.written, hopen]
      exact acceptBody_records hbudget
    · rw [hdb]
      rintro ⟨⟨payment, hp, -⟩, -⟩
      exact lt_irrefl _ (Table.get?_lt hp)
  | approve hactor htarget hbudget =>
    rename_i now id reason authorization actor p
    obtain ⟨p', payment, htarget', hp, hstatus, hrecords⟩ := approveBody_records hactor hbudget
    obtain rfl := Option.some.inj (htarget.symm.trans htarget')
    have hdb : (s.step env (.approve now id reason authorization)).db = s.db := by
      rw [State.step_approve, unitOfWork_of_raises hbudget]
    refine ⟨hrecords, hdb, ?_⟩
    rw [hdb]
    rintro ⟨⟨payment', hp', hfailed⟩, -⟩
    obtain rfl := Option.some.inj (hp.symm.trans hp')
    exact absurd (hstatus.symm.trans hfailed) (by decide)
  | expired hactor happroval hpending hexpiry hnow =>
    rename_i now id reason authorization actor approval expiry
    have hrun : (approveBody env now s.db id reason authorization).1 =
        .error (.http 409 "approval has expired") ∧
        RecordsExpiry (approveBody env now s.db id reason authorization).2 id :=
      approveBody_expires hactor happroval hpending hexpiry hnow
    obtain ⟨hraises, hrecords⟩ := hrun
    have hdb : (s.step env (.approve now id reason authorization)).db = s.db := by
      rw [State.step_approve, unitOfWork_of_raises hraises]
    refine ⟨hrecords, hdb, ?_⟩
    rw [hdb]
    rintro ⟨approval', happroval', hexpired⟩
    obtain rfl := Option.some.inj (happroval.symm.trans happroval')
    exact absurd (hpending.symm.trans hexpired) (by decide)

/-- The local variables of a sample creation when it reaches the insert. -/
def Intake.sample (key : String) (digits : ℕ) : Intake where
  request := (CreateCall.sample key digits).request
  idempotencyKey := key
  fingerprint := requestFingerprint .sample (CreateCall.sample key digits).request
  evidence :=
    { evidenceId := "evidence", issuer := "issuer", evidenceType := "atf", delegationId := none,
      scope := [], maxAmount := none, currency := none, expiresAt := none, digest := none,
      version := none, signedAssertion := some "assertion" }
  context :=
    { evidenceId := "evidence", issuer := "issuer", agentId := "agent", accountId := "account",
      delegationId := none, scope := ["PAYMENT"], maxAmount := some ⟨1000, 0⟩,
      currency := some "USD", validUntil := some 1000, digest := some "assertion",
      version := some "1" }

/-- After 60 of the budget of 100 are reserved, 50 more are asked for. -/
def State.overdrawn : State :=
  Machine.run (State.step .sample) (.start (.sample [.sample]))
    (Action.create 0 0 (.sample "first" 60) ++
      [.openPayment 0 (.sample "second" 50), .insertRequest 1 0])

/-- Two payments of 60 wait for an approval, and the first has got it. -/
def State.overdrawnByApproval : State :=
  Machine.run (State.step .sample)
    (.start (.sample [{ SpendingPolicy.sample with approvalAbove := some (.finite ⟨10, 0⟩) }]))
    (Action.create 0 0 (.sample "first" 60) ++ Action.create 1 0 (.sample "second" 60) ++
      [.approve 10 0 none (some "Bearer approver")])

lemma State.overdrawn_reachable : State.overdrawn.Reachable .sample :=
  ⟨_, _, Db.sample_blank _, Db.sample_budgetsAgree _, rfl⟩

lemma State.overdrawnByApproval_reachable : State.overdrawnByApproval.Reachable .sample :=
  ⟨_, _, Db.sample_blank _, Db.sample_budgetsAgree _, rfl⟩

lemma Env.sample_approver :
    onPermissionError 401 (Env.sample.resolveApprovalBearer
      (bearerToken (some "Bearer approver"))) = .ok "approver" := by decide +kernel

lemma State.overdrawn_meets :
    Failure.Met .sample .overdrawn (.commitPayment 1 0) (.insufficient 1) := by
  have hopen : State.overdrawn.creations[1]? = some (.inserted (.sample "second" 50)) := by
    decide +kernel
  have hbudget : (acceptBody .sample 0 State.overdrawn.db (.sample "second" 50)).Insufficient := by
    decide +kernel
  have hnext : State.overdrawn.db.payments.nextId = 1 := by decide +kernel
  have h := Failure.Met.create hopen hbudget
  rwa [hnext] at h

lemma State.overdrawnByApproval_meets :
    Failure.Met .sample .overdrawnByApproval (.approve 20 1 none (some "Bearer approver"))
      (.insufficient 1) := by
  have htarget : approvalTarget State.overdrawnByApproval.db 1 = some 1 := by decide +kernel
  have hbudget : (approveBody .sample 20 State.overdrawnByApproval.db 1 none
      (some "Bearer approver")).Insufficient := by decide +kernel
  exact .approve Env.sample_approver htarget hbudget

lemma State.overdrawnByApproval_meets_expired :
    Failure.Met .sample .overdrawnByApproval (.approve 900 1 none (some "Bearer approver"))
      (.expired 1) := by
  have happroval : (State.overdrawnByApproval.db.approvals[1]?).map
      (fun a => (a.status, a.expiresAt)) = some (.pending, some 900) := by decide +kernel
  obtain ⟨approval, happroval, heq⟩ := Option.map_eq_some_iff.mp happroval
  obtain ⟨hpending, hexpiry⟩ := Prod.mk.inj heq
  exact .expired Env.sample_approver happroval hpending hexpiry (le_refl _)

/-- Each kind of failure is lost in some run. -/
theorem Failure.Met.lost_sample :
    ¬ Failure.Recorded (State.overdrawn.step .sample (.commitPayment 1 0)).db (.insufficient 1) ∧
    ¬ Failure.Recorded (State.overdrawnByApproval.step .sample
        (.approve 20 1 none (some "Bearer approver"))).db (.insufficient 1) ∧
    ¬ Failure.Recorded (State.overdrawnByApproval.step .sample
        (.approve 900 1 none (some "Bearer approver"))).db (.expired 1) :=
  ⟨(Failure.Met.lost State.overdrawn_meets).2.2,
    (Failure.Met.lost State.overdrawnByApproval_meets).2.2,
    (Failure.Met.lost State.overdrawnByApproval_meets_expired).2.2⟩

/-- A creation that finds the budget insufficient leaves no payment, and an approval that comes
too late leaves the approval pending. -/
theorem State.overdrawn_loses :
    (State.overdrawn.Reachable .sample ∧
      Failure.Met .sample .overdrawn (.commitPayment 1 0) (.insufficient 1) ∧
      (State.overdrawn.step .sample (.commitPayment 1 0)).db.payments.get? 1 = none) ∧
    (State.overdrawnByApproval.Reachable .sample ∧
      Failure.Met .sample .overdrawnByApproval (.approve 900 1 none (some "Bearer approver"))
        (.expired 1) ∧
      ((State.overdrawnByApproval.step .sample
        (.approve 900 1 none (some "Bearer approver"))).db.approvals[1]?).map (·.status) =
          some .pending) :=
  ⟨⟨State.overdrawn_reachable, State.overdrawn_meets, by decide +kernel⟩,
    ⟨State.overdrawnByApproval_reachable, State.overdrawnByApproval_meets_expired,
      by decide +kernel⟩⟩

end AgentPay
