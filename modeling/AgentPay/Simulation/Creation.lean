import AgentPay.Simulation.Requests

/-!
# What `create_payment` creates

A new payment has nothing on the books. It has failed, waits for an approval, or is PROCESSING
with a reservation; every other payment is as it was.
-/

namespace AgentPay

open Support

/-! ### The rows before the payment -/

/-- `merchant` adds a merchant at most. -/
lemma PaymentRepository.merchant_appends (db : Db) (name : String) (domain : Option String) :
    ∃ added, (merchant db name domain).2 = { db with merchants := db.merchants ++ added } := by
  simp only [merchant]
  split
  · exact ⟨[], by simp⟩
  · split
    · exact ⟨[], by simp⟩
    · exact ⟨_, rfl⟩

/-- What is written before the request: at most a merchant, and the evidence row under the next
id. -/
lemma insertReferences_appends {db db' : Db} {i : Intake} {merchantId : Option MerchantId}
    {evidenceId : EvidenceId} (hrun : insertReferences db i = (merchantId, evidenceId, db')) :
    evidenceId = db.authorizationEvidence.length ∧ ∃ added, db' = { db with
      merchants := db.merchants ++ added
      authorizationEvidence := db.authorizationEvidence ++ [i.evidenceRow] } := by
  simp only [insertReferences] at hrun
  cases hm : i.request.merchant with
  | none =>
    rw [hm] at hrun
    obtain ⟨-, rfl, rfl⟩ := by simpa [insertEvidence] using hrun
    exact ⟨rfl, [], by simp⟩
  | some body =>
    rw [hm] at hrun
    obtain ⟨added, heq⟩ := PaymentRepository.merchant_appends db body.name body.domain
    rw [heq] at hrun
    obtain ⟨-, rfl, rfl⟩ := by simpa [insertEvidence] using hrun
    exact ⟨rfl, added, rfl⟩

/-- The merchant and evidence rows belong to no view. -/
lemma Effect.insertReferences {db db' : Db} (h : db.Sound) (p : PaymentId) {i : Intake}
    {merchantId : Option MerchantId} {evidenceId : EvidenceId}
    (hrun : insertReferences db i = (merchantId, evidenceId, db')) :
    Effect p (fun v => v) db db' := by
  obtain ⟨-, added, rfl⟩ := insertReferences_appends hrun
  exact Effect.of_unseen p (fun _ => rfl) ⟨h.1, h.2, h.3, h.4, h.5, h.6, h.7⟩

/-- What `create_request` does when it returns: a row under a free key. -/
lemma PaymentRepository.createRequest_eq_ok {db db' : Db}
    {accountId agentId currency idempotencyKey : String} {amount : Decimal}
    {fingerprint : Option String} {merchantId : Option MerchantId} {id : RequestId}
    (hrun : createRequest db accountId agentId amount currency idempotencyKey fingerprint
      merchantId = .ok (id, db')) :
    ∃ stored requests, Amount.store amount = .ok stored ∧
      db.paymentRequests.row? (accountId, idempotencyKey) = none ∧
      requests.rows = db.paymentRequests.rows ++
        [newRequest accountId agentId stored currency idempotencyKey fingerprint merchantId] ∧
      id = db.paymentRequests.nextId ∧ db' = { db with paymentRequests := requests } := by
  simp only [createRequest] at hrun
  obtain ⟨stored, hstored, hrun⟩ := Except.bind_eq_ok.mp hrun
  split_ifs at hrun
  split at hrun
  · cases hrun
  rename_i requests hins
  obtain ⟨rfl, rfl⟩ := Prod.mk.inj (Except.ok.inj hrun)
  obtain ⟨hnone, hrows⟩ := Table.row?_of_insert? hins rfl
  exact ⟨stored, requests, hstored, hnone, hrows, rfl, rfl⟩

/-- What `create_payment` does when it returns. -/
lemma PaymentRepository.createPayment_eq_ok {db db' : Db} {i : RequestId} {amount : Decimal}
    {currency : String} {status : PaymentStatus} {p : PaymentId}
    (hrun : createPayment db i amount currency status = .ok (p, db')) :
    ∃ stored payments, Amount.store amount = .ok stored ∧
      payments.rows = db.payments.rows ++ [newPayment i stored currency status] ∧
      p = db.payments.nextId ∧ db' = { db with payments } := by
  simp only [createPayment] at hrun
  obtain ⟨stored, hstored, hrun⟩ := Except.bind_eq_ok.mp hrun
  split at hrun
  · cases hrun
  rename_i payments hins
  obtain ⟨rfl, rfl⟩ := Prod.mk.inj (Except.ok.inj hrun)
  exact ⟨stored, payments, hstored, (Table.insert?_eq_some.mp hins).2, rfl, rfl⟩

/-- A new request belongs to no payment yet. -/
lemma Effect.newRequest {db : Db} (h : db.Sound) (p : PaymentId) {request : PaymentRequest}
    (hnone : request.budgetReservationId = none)
    {requests : Table PaymentRequest PaymentRequest.key}
    (hrows : requests.rows = db.paymentRequests.rows ++ [request]) :
    Effect p (fun v => v) db { db with paymentRequests := requests } := by
  have hget := Table.get?_of_rows_append hrows
  have hnext := Table.nextId_of_rows_append hrows
  -- a row that was there is still there
  have hold : ∀ {i request}, db.paymentRequests.get? i = some request →
      requests.get? i = some request := fun {i request} hi => by
    rw [hget, if_neg (Table.get?_lt hi).ne]
    exact hi
  refine Effect.of_unseen p (fun q => ?_) ⟨?_, ?_, ?_, h.4, h.5, h.6, ?_⟩
  · simp only [view]
    cases hq : db.payments.get? q with
    | none => rfl
    | some payment =>
      obtain ⟨request, hr⟩ := h.request q payment hq
      simp only [Option.bind_some, hold hr, hr]
      rfl
  · intro q payment hq
    obtain ⟨request, hr⟩ := h.request q payment hq
    exact ⟨request, hold hr⟩
  · intro i request r hi hlink
    simp only [hget] at hi
    split_ifs at hi
    · obtain rfl := Option.some.inj hi
      rw [hnone] at hlink
      cases hlink
    · exact h.reservation i request r hi hlink
  · intro r row hrow
    obtain ⟨request, hr, hlink⟩ := h.linked r row hrow
    exact ⟨request, hold hr, hlink⟩
  · exact fun a ha => (h.approval a ha).trans (by simp [hnext])

/-- `evaluate_policy` records the policy version, and never raises a `LookupError`. -/
lemma Effect.evaluatePolicy {db db' : Db} (h : db.Sound) (p : PaymentId)
    {q : ControlRepository.PolicyQuestion}
    {decision : Decision × Option PolicyVersionId × ControlRepository.PolicyEvidence}
    (hrun : ControlRepository.evaluatePolicy db q = .ok (decision, db')) :
    Effect p (fun v => v) db db' := by
  simp only [ControlRepository.evaluatePolicy] at hrun
  split at hrun
  · obtain ⟨-, rfl⟩ := Prod.mk.inj (Except.ok.inj hrun)
    exact Effect.refl p h
  · split at hrun
    · cases hrun
    · obtain ⟨-, rfl⟩ := Prod.mk.inj (Except.ok.inj hrun)
      exact Effect.updateRequest h p _ _ _ fun _ => rfl

lemma ControlRepository.evaluatePolicy_ne_lookupError {db : Db}
    {q : ControlRepository.PolicyQuestion} {message : String} :
    evaluatePolicy db q ≠ .error (.lookupError message) := by
  intro hrun
  simp only [evaluatePolicy] at hrun
  split at hrun
  · cases hrun
  · split at hrun <;> cases hrun

/-- `create_approval` opens an approval of the request. -/
lemma Effect.createApproval {env : Env} {now : Time} {db db' : Db} (h : db.Sound)
    {p : PaymentId} {v : PaymentView} (hv : view db p = some v) {reason : Option String}
    {id : ApprovalId}
    (hrun : ControlRepository.createApproval env now db v.requestId reason = .ok (id, db')) :
    Effect p (fun v => { v with pending := v.pending + 1 }) db db' := by
  obtain ⟨payment, request, hp, hr, rfl⟩ := view_eq_some.mp hv
  simp only [ControlRepository.createApproval] at hrun
  split at hrun
  · cases hrun
  obtain ⟨-, rfl⟩ := Prod.mk.inj (Except.ok.inj hrun)
  refine (Effect.approvals h hp (fun i hi => ?_) rfl ?_).congr fun v' hv' => ?_
  · have hne : payment.paymentRequestId ≠ i := hi.symm
    simp [pendingApprovals, List.countP_append, viewOf, hne]
  · intro a ha
    rw [List.mem_append, List.mem_singleton] at ha
    rcases ha with ha | rfl
    · exact h.approval a ha
    · exact Table.get?_lt hr
  · obtain rfl : viewOf db p payment request = v' := by simpa [hv] using hv'
    simp [viewOf, pendingApprovals, List.countP_append]

/-! ### The payment -/

/-- No transaction. -/
def TransactionView.empty : TransactionView := ⟨fun _ => false, fun _ => none, 0, 0, 0⟩

/-- No journal. -/
def JournalView.empty : JournalView := ⟨false, fun _ => false, 0, 0⟩

/-- Ids above the payments there are have no operation, transaction or journal. -/
lemma Db.Sound.unbooked {db : Db} (h : db.Sound) {p : PaymentId} (hp : db.payments.nextId ≤ p) :
    db.providerOperations.row? (.charge p) = none ∧ transactionView db p = .empty ∧
      journalView db p = .empty := by
  have htx : ∀ t ∈ db.transactions.rows, t.paymentId ≠ p := fun t ht =>
    ((h.transaction t ht).2.trans_le hp).ne
  have hrow : ∀ k : TransactionKey, k.paymentId = p → db.transactions.row? k = none := by
    intro k hk
    rw [Table.row?_eq_none]
    intro t ht hkey
    have := (h.transaction t ht).1.payment
    simp only [Transaction.key, Option.some.injEq] at hkey
    exact htx t ht (by rw [this, hkey, hk])
  have hjournal : ∀ j ∈ db.ledgerJournals.rows, j.idempotencyKey.paymentId ≠ p := fun j hj =>
    ((h.journal j hj).trans_le hp).ne
  have hjrow : ∀ k : JournalKey, k.paymentId = p → db.ledgerJournals.row? k = none := by
    intro k hk
    rw [Table.row?_eq_none]
    intro j hj hkey
    simp only [LedgerJournal.key, Option.some.injEq] at hkey
    exact hjournal j hj (by rw [hkey, hk])
  refine ⟨?_, ?_, ?_⟩
  · rw [Table.row?_eq_none]
    intro o ho hkey
    obtain ⟨hfiled, hlt⟩ := h.operation o ho
    simp only [ProviderOperation.key, Option.some.injEq] at hkey
    rw [hfiled.payment, hkey] at hlt
    exact absurd hlt (not_lt.mpr hp)
  · simp only [transactionView, TransactionView.empty, TransactionView.mk.injEq, postedCount,
      PaymentLifecycle.postedSum, List.sum_eq_zero_iff, List.mem_map, forall_exists_index, and_imp,
      forall_apply_eq_imp_iff₂]
    refine ⟨funext fun path => ?_, funext fun k => ?_, ?_, ?_, ?_⟩
    · rw [hrow _ (CapturePath.key_paymentId p path)]
      rfl
    · rw [hrow _ rfl]
      rfl
    all_goals exact fun t ht => if_neg fun hp => htx t ht hp.1
  · simp only [journalView, JournalView.empty, JournalView.mk.injEq, List.sum_eq_zero_iff,
      List.mem_map, forall_exists_index, and_imp, forall_apply_eq_imp_iff₂]
    refine ⟨?_, funext fun k => ?_, fun j hj => ?_, fun j hj => ?_⟩
    · rw [hjrow _ rfl]
      rfl
    · rw [hjrow _ rfl]
      rfl
    · have := hjournal j hj
      cases hk : j.idempotencyKey <;> simp_all [LedgerJournal.captureDebit, JournalKey.paymentId]
    · have := hjournal j hj
      cases hk : j.idempotencyKey <;> simp_all [LedgerJournal.refundCredit, JournalKey.paymentId]

/-- A payment that has just been inserted. -/
structure PaymentView.Opened (v : PaymentView) : Prop where
  reservation : v.reservation = none
  charge : v.charge = none
  pending : v.pending = 0
  transactions : v.transactions = .empty
  journals : v.journals = .empty

/-- A new payment of a request that has no reservation and no approval changes no other payment. -/
lemma Db.Sound.newPayment {db : Db} (h : db.Sound) (payment : Payment) {request : PaymentRequest}
    (hr : db.paymentRequests.get? payment.paymentRequestId = some request)
    (hnone : request.budgetReservationId = none)
    (hpending : pendingApprovals db payment.paymentRequestId = 0)
    {payments : Table Payment Payment.key} (hrows : payments.rows = db.payments.rows ++ [payment]) :
    ({ db with payments } : Db).Sound ∧
      (∀ q, q ≠ db.payments.nextId → view { db with payments } q = view db q) ∧
      ∃ v, view { db with payments } db.payments.nextId = some v ∧ v.Opened ∧
        v.requestId = payment.paymentRequestId := by
  have hget := Table.get?_of_rows_append hrows
  have hnext := Table.nextId_of_rows_append hrows
  have hlt : ∀ {n}, n < db.payments.nextId → n < payments.nextId := fun hn => by
    rw [hnext]
    exact hn.trans (Nat.lt_succ_self _)
  refine ⟨⟨?_, h.2, h.3, fun o ho => ⟨(h.4 o ho).1, hlt (h.4 o ho).2⟩,
    fun t ht => ⟨(h.5 t ht).1, hlt (h.5 t ht).2⟩, fun j hj => hlt (h.6 j hj), h.7⟩, ?_, ?_⟩
  · intro q payment hq
    simp only [hget] at hq
    split_ifs at hq
    · obtain rfl := Option.some.inj hq
      exact ⟨request, hr⟩
    · exact h.request q payment hq
  · intro q hq
    simp only [view, hget, if_neg hq]
    rfl
  · obtain ⟨hcharge, htx, hjournal⟩ := h.unbooked le_rfl
    refine ⟨_, view_eq_some.mpr ⟨_, request, (hget _).trans (if_pos rfl), hr, rfl⟩, ?_, rfl⟩
    refine ⟨by simp [viewOf, reservationView, hnone], ?_, hpending, htx, hjournal⟩
    simp [viewOf, hcharge]

/-- What `create_payment` makes of the payment it has inserted. -/
inductive PaymentView.Decides : PaymentView → PaymentView → Prop where
  | fails {v} : Decides v (v.withStatus .failed)
  | waits {v} : Decides v { v with status := .approvalRequired, pending := v.pending + 1 }
  | starts {v} (id : ReservationId) :
      Decides v { v with status := .processing, reservation := some (id, .reserved) }

/-- The rest of `create_payment` is one of three effects on the payment. -/
lemma decidePayment_effect {env : Env} {now : Time} {db db' : Db} (h : db.Sound) {i : Intake}
    {p : PaymentId} {v : PaymentView} (hv : view db p = some v) (hnone : v.reservation = none)
    {outcome : CreateOutcome}
    (hrun : decidePayment env now db i v.requestId p = .ok (outcome, db')) :
    ∃ f, Effect p f db db' ∧ v.Decides (f v) := by
  simp only [decidePayment] at hrun
  split at hrun
  · rename_i message heq
    exact absurd heq ControlRepository.evaluatePolicy_ne_lookupError
  · cases hrun
  rename_i decision versionId policyEvidence db₁ heval
  have h₁ := Effect.evaluatePolicy h p heval
  have hfail : ∀ {db₂ reason status detail}, Effect p (fun v => v) db db₂ →
      failDeferred db₂ p reason status detail = (outcome, db') →
      ∃ f, Effect p f db db' ∧ v.Decides (f v) := by
    rintro db₂ reason status detail h₂ heq
    obtain ⟨-, rfl⟩ := Prod.mk.inj heq
    exact ⟨_, (h₂.trans (Effect.updateStatus h₂.sound p .failed none)).enqueue _, .fails⟩
  by_cases hdeny : decision = .deny
  · rw [if_pos hdeny] at hrun
    exact hfail h₁ (Except.ok.inj hrun)
  rw [if_neg hdeny] at hrun
  split at hrun
  · exact hfail h₁ (Except.ok.inj hrun)
  rename_i budgetId hbudget
  have hbind : Effect p (fun v => v) db₁ (ControlRepository.bindBudget db₁ v.requestId budgetId) :=
    Effect.updateRequest h₁.sound p _ _ _ fun _ => rfl
  have h₂ := h₁.trans hbind
  have hv₂ := h₂.view_some hv
  by_cases hask : decision = .requireApproval
  · rw [if_pos hask] at hrun
    obtain ⟨⟨approvalId, db₃⟩, happroval, hrun⟩ := Except.bind_eq_ok.mp hrun
    obtain ⟨-, rfl⟩ := Prod.mk.inj (Except.ok.inj hrun)
    have h₃ := h₂.trans (Effect.createApproval h₂.sound hv₂ happroval)
    exact ⟨_, (h₃.trans (Effect.updateStatus h₃.sound p .approvalRequired none)).enqueue _, .waits⟩
  · rw [if_neg hask] at hrun
    obtain ⟨⟨reservationId, db₃⟩, hprepare, hrun⟩ := Except.bind_eq_ok.mp hrun
    obtain ⟨-, rfl⟩ := Prod.mk.inj (Except.ok.inj hrun)
    have h₃ := h₂.trans (Effect.prepare h₂.sound hv₂ hnone hprepare)
    refine ⟨fun v => { v with
      status := .processing, reservation := some (reservationId, .reserved) }, ?_,
      .starts reservationId⟩
    split_ifs
    · exact h₃.enqueue _
    · exact h₃

/-- What a created payment looks like. -/
structure PaymentView.Created (v : PaymentView) : Prop where
  charge : v.charge = none
  transactions : v.transactions = .empty
  journals : v.journals = .empty
  state : (v.status = .failed ∧ v.reservation = none ∧ v.pending = 0) ∨
    (v.status = .approvalRequired ∧ v.reservation = none ∧ v.pending = 1) ∨
    (v.status = .processing ∧ v.pending = 0 ∧ ∃ id, v.reservation = some (id, .reserved))

lemma PaymentView.Opened.created {v v' : PaymentView} (h : v.Opened) (hd : v.Decides v') :
    v'.Created := by
  obtain ⟨hres, hcharge, hpending, htx, hjournal⟩ := h
  cases hd with
  | fails => exact ⟨hcharge, htx, hjournal, .inl ⟨rfl, hres, hpending⟩⟩
  | waits => exact ⟨hcharge, htx, hjournal, .inr (.inl ⟨rfl, hres, by simp [hpending]⟩)⟩
  | starts id => exact ⟨hcharge, htx, hjournal, .inr (.inr ⟨rfl, hpending, id, rfl⟩)⟩

/-- What `create_payment` may do: add at most the payment with the next id. -/
structure Creates (db db' : Db) : Prop where
  others : ∀ q, q ≠ db.payments.nextId → view db' q = view db q
  created : ∀ v, view db' db.payments.nextId = some v → v.Created
  sound : db'.Sound

lemma view_nextId (db : Db) : view db db.payments.nextId = none := by
  cases hv : view db db.payments.nextId with
  | none => rfl
  | some v => exact absurd (view_lt hv) (lt_irrefl _)

/-- A step that shows in no view creates nothing. -/
lemma Effect.creates {p : PaymentId} {db db' : Db} (h : Effect p (fun v => v) db db') :
    Creates db db' where
  others q _ := by
    by_cases hq : q = p
    · subst hq
      rw [h.here]
      cases view db q <;> rfl
    · exact h.others q hq
  created v hv := by
    have : view db' db.payments.nextId = view db db.payments.nextId := by
      by_cases hq : db.payments.nextId = p
      · subst hq
        rw [h.here]
        cases view db db.payments.nextId <;> rfl
      · exact h.others _ hq
    rw [this, view_nextId] at hv
    cases hv
  sound := h.sound

/-- The inserts of `create_payment` before the payment, when the key is free. -/
lemma Effect.linkEvidence {db : Db} (h : db.Sound) (p : PaymentId) (requestId : RequestId)
    (evidenceId : EvidenceId) (digest : Option String) :
    Effect p (fun v => v) db (linkEvidence db requestId evidenceId digest) := by
  have h₁ := Effect.updateRequest h p requestId
    (fun r => { r with authorizationEvidenceId := some evidenceId,
                       authorizationContextHash := digest }) (fun _ => rfl) fun _ => rfl
  exact ⟨h₁.here, h₁.others, ⟨h₁.sound.1, h₁.sound.2, h₁.sound.3, h₁.sound.4, h₁.sound.5,
    h₁.sound.6, h₁.sound.7⟩⟩

/-- The two ways `acceptPayment` returns: the answer a row that holds the key gives, or a new
request with its payment. -/
lemma acceptPayment_eq_ok {env : Env} {now : Time} {db db' : Db} {i : Intake}
    {outcome : CreateOutcome} (hrun : acceptPayment env now db i = .ok (outcome, db')) :
    ∃ merchantId evidenceId db₁,
      insertReferences db i = (merchantId, evidenceId, db₁) ∧
      ((∃ requestId existing,
          PaymentRepository.findByIdempotency db₁ i.request.accountId i.idempotencyKey =
            some (requestId, existing) ∧
          replay db₁ i.fingerprint requestId existing = .ok outcome ∧ db' = db₁) ∨
        ∃ requestId db₂ p db₃,
          PaymentRepository.createRequest db₁ i.request.accountId i.request.agentId
            i.request.amount.decimal i.request.currency i.idempotencyKey (some i.fingerprint)
            merchantId = .ok (requestId, db₂) ∧
          PaymentRepository.createPayment
            (linkEvidence db₂ requestId evidenceId i.context.digest) requestId
            i.request.amount.decimal i.request.currency .policyCheck = .ok (p, db₃) ∧
          decidePayment env now db₃ i requestId p = .ok (outcome, db')) := by
  simp only [acceptPayment] at hrun
  rcases hrefs : AgentPay.insertReferences db i with ⟨merchantId, evidenceId, db₁⟩
  rw [hrefs] at hrun
  refine ⟨merchantId, evidenceId, db₁, rfl, ?_⟩
  split at hrun
  · split at hrun
    · cases hrun
    rename_i requestId existing hfind
    obtain ⟨answer, hanswer, hrun⟩ := Except.bind_eq_ok.mp hrun
    obtain ⟨rfl, rfl⟩ := Prod.mk.inj (Except.ok.inj hrun)
    exact .inl ⟨requestId, existing, hfind, hanswer, rfl⟩
  · cases hrun
  · rename_i requestId db₂ hreq
    obtain ⟨⟨p, db₃⟩, hpayment, hrun⟩ := Except.bind_eq_ok.mp hrun
    exact .inr ⟨requestId, db₂, p, db₃, hreq, hpayment, hrun⟩

/-- The state `create_payment` inserts its payment in: no view has changed, and the new request has
neither a reservation nor an approval. -/
lemma Effect.intake {db db₁ db₂ : Db} (h : db.Sound) (p : PaymentId) {i : Intake}
    {merchantId : Option MerchantId} {evidenceId : EvidenceId}
    (hrefs : AgentPay.insertReferences db i = (merchantId, evidenceId, db₁))
    {accountId agentId currency idempotencyKey : String} {amount : Decimal}
    {fingerprint : Option String} {requestId : RequestId}
    (hreq : PaymentRepository.createRequest db₁ accountId agentId amount currency idempotencyKey
      fingerprint merchantId = .ok (requestId, db₂)) (digest : Option String) :
    Effect p (fun v => v) db (AgentPay.linkEvidence db₂ requestId evidenceId digest) ∧
      (AgentPay.linkEvidence db₂ requestId evidenceId digest).payments = db.payments ∧
      (∃ request, (AgentPay.linkEvidence db₂ requestId evidenceId digest).paymentRequests.get?
        requestId = some request ∧ request.budgetReservationId = none) ∧
      pendingApprovals (AgentPay.linkEvidence db₂ requestId evidenceId digest) requestId = 0 := by
  have h₁ := Effect.insertReferences h p hrefs
  obtain ⟨-, added, rfl⟩ := insertReferences_appends hrefs
  obtain ⟨stored, requests, -, -, hrows, rfl, rfl⟩ := PaymentRepository.createRequest_eq_ok hreq
  have h₂ := h₁.trans (Effect.newRequest h₁.sound p rfl hrows)
  refine ⟨h₂.trans (Effect.linkEvidence h₂.sound p _ _ _), rfl, ?_, ?_⟩
  · simp only [AgentPay.linkEvidence, Table.get?_update_self, Table.get?_of_rows_append hrows,
      if_pos, Option.map_some]
    exact ⟨_, rfl, rfl⟩
  · rw [pendingApprovals, List.countP_eq_zero]
    intro a ha
    have hlt : a.paymentRequestId < db.paymentRequests.nextId := h.approval a ha
    simp [hlt.ne]

/-- The transaction of `create_payment` adds at most one payment. -/
theorem acceptPayment_creates {env : Env} {now : Time} {db db' : Db} (h : db.Sound) {i : Intake}
    {outcome : CreateOutcome} (hrun : acceptPayment env now db i = .ok (outcome, db')) :
    Creates db db' := by
  obtain ⟨merchantId, evidenceId, db₁, hrefs, hrun⟩ := acceptPayment_eq_ok hrun
  rcases hrun with ⟨-, -, -, -, rfl⟩ | ⟨requestId, db₂, p, db₃, hreq, hpayment, hrun⟩
  · exact (Effect.insertReferences h db.payments.nextId hrefs).creates
  obtain ⟨h₁, hsame, ⟨request, hr, hnone⟩, hpending⟩ :=
    Effect.intake h db.payments.nextId hrefs hreq i.context.digest
  generalize linkEvidence db₂ requestId evidenceId i.context.digest = db₀ at *
  obtain ⟨stored, payments, -, hrows, rfl, rfl⟩ := PaymentRepository.createPayment_eq_ok hpayment
  obtain ⟨hsound, hothers, v, hv, hopened, rfl⟩ :=
    h₁.sound.newPayment (PaymentRepository.newPayment requestId _ _ _) hr hnone hpending hrows
  obtain ⟨f, h₂, hdecides⟩ := decidePayment_effect hsound hv hopened.reservation hrun
  rw [hsame] at *
  refine ⟨fun q hq => ?_, fun v' hv' => ?_, h₂.sound⟩
  · rw [h₂.others q hq, hothers q hq, h₁.others q hq]
  · obtain rfl : f v = v' := by simpa [h₂.view_some hv] using hv'
    exact hopened.created hdecides

/-! ### Settlement reports -/

/-- A settlement report is recorded beside the payments. -/
lemma SettlementRepository.ingest_eq_ok {db db' : Db} {report : SettlementReport}
    {status : IngestStatus} (hrun : ingest db report = .ok (status, db')) :
    ∃ settlements reconciliationRecords,
      db' = { db with settlements, reconciliationRecords } := by
  simp only [ingest] at hrun
  obtain ⟨-, -, hrun⟩ := Except.bind_eq_ok.mp hrun
  obtain ⟨inserted, -, hrun⟩ := Except.bind_eq_ok.mp hrun
  split at hrun
  · obtain ⟨-, rfl⟩ := Prod.mk.inj (Except.ok.inj hrun)
    exact ⟨db.settlements, db.reconciliationRecords, rfl⟩
  · obtain ⟨-, rfl⟩ := Prod.mk.inj (Except.ok.inj hrun)
    exact ⟨_, _, rfl⟩

/-- It shows in no payment. -/
lemma SettlementRepository.ingest_effect {db db' : Db} (h : db.Sound) {report : SettlementReport}
    {status : IngestStatus} (hrun : ingest db report = .ok (status, db')) (p : PaymentId) :
    Effect p (fun v => v) db db' := by
  obtain ⟨settlements, records, rfl⟩ := ingest_eq_ok hrun
  exact Effect.of_unseen p (fun _ => rfl) ⟨h.1, h.2, h.3, h.4, h.5, h.6, h.7⟩

end AgentPay
