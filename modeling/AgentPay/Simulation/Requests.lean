import AgentPay.Simulation.Webhooks

/-!
# Approving and denying follow the payment machine

An approval moves a payment once, out of the state in which it waits: with a reservation into
PROCESSING, or into FAILED.
-/

namespace AgentPay

open Support

/-! ### Requests -/

/-- A rewrite of a request that keeps its reservation shows in no view. -/
lemma Effect.updateRequest {db : Db} (h : db.Sound) (p : PaymentId) (i : RequestId)
    (f : PaymentRequest → PaymentRequest) (hf : ∀ r, (f r).key = r.key)
    (hres : ∀ r, (f r).budgetReservationId = r.budgetReservationId) :
    Effect p (fun v => v) db
      { db with paymentRequests := db.paymentRequests.update i f hf } := by
  have hget : ∀ j, (db.paymentRequests.update i f hf).get? j =
      (db.paymentRequests.get? j).map fun r => if i = j then f r else r := by
    intro j
    rw [Table.get?_update]
    split_ifs <;> simp
  refine Effect.of_unseen p (fun q => ?_) ⟨?_, ?_, ?_, h.4, h.5, h.6, by simpa using h.7⟩
  · simp only [view]
    cases db.payments.get? q with
    | none => rfl
    | some payment =>
      simp only [Option.bind_some, hget]
      cases db.paymentRequests.get? payment.paymentRequestId with
      | none => rfl
      | some request =>
        have : reservationView db (if i = payment.paymentRequestId then f request else request) =
            reservationView db request := by
          split_ifs <;> simp [reservationView, hres]
        simp only [Option.map_some]
        exact congrArg some (by simp only [viewOf]; rw [← this]; rfl)
  · intro q payment hq
    obtain ⟨request, hr⟩ := h.request q payment hq
    exact ⟨_, by rw [hget, hr, Option.map_some]⟩
  · intro j request r hj hlink
    rw [hget] at hj
    obtain ⟨request₀, hr₀, rfl⟩ := Option.map_eq_some_iff.mp hj
    refine h.reservation j request₀ r hr₀ ?_
    split_ifs at hlink
    · rwa [hres] at hlink
    · exact hlink
  · intro r row hrow
    obtain ⟨request, hr, hlink⟩ := h.linked r row hrow
    refine ⟨_, by rw [hget, hr, Option.map_some], ?_⟩
    split_ifs
    · rwa [hres]
    · exact hlink

/-! ### Reserving -/

/-- `reserve` when it succeeds: a RESERVED row for the request, with the budget that backs it. -/
lemma BudgetRepository.reserve_eq_ok {db db' : Db} {budgetId : BudgetId} {i : RequestId}
    {amount : Decimal} {id : ReservationId}
    (hrun : reserve db budgetId i amount = .ok (some id, db')) :
    ∃ row stored reservations budgets, db.budgets[budgetId]? = some row ∧
      row.refuses (requestCurrency db i) amount = false ∧ Amount.store amount = .ok stored ∧
      reservations.rows = db.budgetReservations.rows ++
        [⟨budgetId, i, stored, row.currency, .reserved⟩] ∧
      id = db.budgetReservations.nextId ∧
      budgets = db.budgets.modify budgetId (·.addReserved amount) ∧
      db' = { db with budgetReservations := reservations, budgets } := by
  simp only [reserve] at hrun
  split at hrun
  · obtain ⟨hnone, -⟩ := Prod.mk.inj (Except.ok.inj hrun)
    cases hnone
  rename_i row hrow
  by_cases href : row.refuses (requestCurrency db i) amount = true
  · rw [if_pos href] at hrun
    obtain ⟨hnone, -⟩ := Prod.mk.inj (Except.ok.inj hrun)
    cases hnone
  rw [if_neg href] at hrun
  obtain ⟨stored, hstored, hrun⟩ := Except.bind_eq_ok.mp hrun
  split at hrun
  · cases hrun
  rename_i reservations hins
  obtain ⟨hid, rfl⟩ := Prod.mk.inj (Except.ok.inj hrun)
  exact ⟨row, stored, reservations, _, hrow, by simpa using href, hstored,
    (Table.insert?_eq_some.mp hins).2, (Option.some.inj hid).symm, rfl, rfl⟩

/-- What `prepare` has checked and done when it returns. -/
lemma PaymentOrchestrator.prepare_eq_ok {db db' : Db} {p : PaymentId} {i : RequestId}
    {budgetId : BudgetId} {amount : Decimal} {currency : String} {id : ReservationId}
    (hrun : prepare db p i budgetId amount currency = .ok (id, db')) :
    ∃ payment request db₁, db.payments.get? p = some payment ∧
      db.paymentRequests.get? i = some request ∧ payment.paymentRequestId = i ∧
      ((request.authorizationEvidenceId.bind (db.authorizationEvidence[·]?)).map
        (·.verificationStatus)) = some .verified ∧
      request.amount.toDecimal.units = amount.units ∧
      normCurrency request.currency = upper currency ∧
      payment.status ∉ [.succeeded, .failed, .cancelled, .voided, .refunded] ∧
      BudgetRepository.reserve db budgetId i amount = .ok (some id, db₁) ∧
      db' = enqueue (PaymentRepository.updateStatus (linkReservation db₁ i id) p .processing none)
        (.paymentStarted p id) := by
  simp only [prepare] at hrun
  split at hrun
  · rename_i payment request hp hr
    split_ifs at hrun with hbind hver hcur hterm
    obtain ⟨⟨id', db₁⟩, hreserve, hrun⟩ := Except.bind_eq_ok.mp hrun
    cases id' with
    | none => cases hrun
    | some id' =>
      obtain ⟨rfl, rfl⟩ := Prod.mk.inj (Except.ok.inj hrun)
      exact ⟨payment, request, db₁, hp, hr, not_not.mp hbind, not_not.mp hver,
        not_not.mp fun hne => hcur (.inl hne), not_not.mp fun hne => hcur (.inr hne), hterm,
        hreserve, rfl⟩
  · cases hrun

/-- `prepare` gives the payment its reservation and puts it into PROCESSING. -/
lemma Effect.prepare {db db' : Db} (h : db.Sound) {p : PaymentId} {v : PaymentView}
    (hv : view db p = some v) (hnone : v.reservation = none) {i : RequestId}
    {budgetId : BudgetId} {amount : Decimal} {currency : String} {id : ReservationId}
    (hrun : PaymentOrchestrator.prepare db p i budgetId amount currency = .ok (id, db')) :
    Effect p (fun v => { v with status := .processing, reservation := some (id, .reserved) })
      db db' := by
  obtain ⟨payment, request, db₁, hp, hr, rfl, -, -, -, -, hreserve, rfl⟩ :=
    PaymentOrchestrator.prepare_eq_ok hrun
  obtain ⟨row, stored, reservations, budgets, -, -, -, hrows, rfl, -, rfl⟩ :=
    BudgetRepository.reserve_eq_ok hreserve
  obtain rfl : viewOf db p payment request = v := by
    have : view db p = some (viewOf db p payment request) :=
      view_eq_some.mpr ⟨payment, request, hp, hr, rfl⟩
    simpa [this] using hv
  have hget := Table.get?_of_rows_append hrows
  have hlink : request.budgetReservationId = none := by
    cases hl : request.budgetReservationId with
    | none => rfl
    | some r =>
      obtain ⟨s, hs⟩ := h.reservationView_eq hr hl
      rw [show (viewOf db p payment request).reservation = reservationView db request from rfl,
        hs] at hnone
      cases hnone
  -- a linked reservation is an old row, hence not the new one
  have hold : ∀ j request' r, db.paymentRequests.get? j = some request' →
      request'.budgetReservationId = some r →
      reservations.get? r = db.budgetReservations.get? r := by
    intro j request' r hj hl
    obtain ⟨row', hrow', -⟩ := h.reservation j request' r hj hl
    rw [hget, if_neg (Table.get?_lt hrow').ne]
  have hreq : ∀ j, (db.paymentRequests.update payment.paymentRequestId
      (fun r => { r with budgetReservationId := some db.budgetReservations.nextId })
        fun _ => rfl).get? j =
      if payment.paymentRequestId = j then (db.paymentRequests.get? j).map
        fun r => { r with budgetReservationId := some db.budgetReservations.nextId }
      else db.paymentRequests.get? j := fun j => Table.get?_update ..
  have h₁ : Effect p
      (fun v => { v with reservation := some (db.budgetReservations.nextId, .reserved) }) db
      (PaymentOrchestrator.linkReservation
        { db with budgetReservations := reservations, budgets := budgets }
        payment.paymentRequestId db.budgetReservations.nextId) := by
    refine ⟨?_, ?_, ?_⟩
    · simp only [view, PaymentOrchestrator.linkReservation, hp, Option.bind_some, hreq, if_pos, hr,
        Option.map_some]
      refine congrArg some ?_
      simp only [viewOf, reservationView, hget, if_pos, Option.bind_eq_bind, Option.bind_some]
      rfl
    · intro q hq
      simp only [view, PaymentOrchestrator.linkReservation]
      cases hq' : db.payments.get? q with
      | none => rfl
      | some payment' =>
        have hne : payment.paymentRequestId ≠ payment'.paymentRequestId := fun heq =>
          hq (payment_unique hq' hp heq.symm)
        simp only [Option.bind_some, hreq, if_neg hne]
        cases hr' : db.paymentRequests.get? payment'.paymentRequestId with
        | none => rfl
        | some request' =>
          refine congrArg some ?_
          simp only [viewOf, reservationView]
          cases hl : request'.budgetReservationId with
          | none => rfl
          | some r =>
            simp only [Option.bind_eq_bind, Option.bind_some, hold _ _ _ hr' hl]
            rfl
    · refine ⟨?_, ?_, ?_, h.4, h.5, h.6,
        by simpa [PaymentOrchestrator.linkReservation] using h.7⟩
      · intro q payment' hq
        obtain ⟨request', hr'⟩ := h.request q payment' hq
        simp only [PaymentOrchestrator.linkReservation, hreq, hr']
        split_ifs
        · exact ⟨_, rfl⟩
        · exact ⟨_, rfl⟩
      · intro j request' r hj hl
        simp only [PaymentOrchestrator.linkReservation, hreq] at hj
        split_ifs at hj with hij
        · obtain ⟨request₀, -, rfl⟩ := Option.map_eq_some_iff.mp hj
          obtain rfl := Option.some.inj hl
          exact ⟨_, (hget _).trans (if_pos rfl), hij⟩
        · obtain ⟨row', hrow', howner⟩ := h.reservation j request' r hj hl
          exact ⟨row', (hold j request' r hj hl).trans hrow', howner⟩
      · intro r row' hrow'
        simp only [PaymentOrchestrator.linkReservation, hget] at hrow'
        split_ifs at hrow' with hr'
        · obtain rfl := Option.some.inj hrow'
          exact ⟨_, (hreq _).trans ((if_pos rfl).trans (by rw [hr]; rfl)), by rw [hr']⟩
        · obtain ⟨request', hreq', hl⟩ := h.linked r row' hrow'
          have hne : payment.paymentRequestId ≠ row'.paymentRequestId := by
            intro heq
            rw [← heq, hr, Option.some.injEq] at hreq'
            rw [← hreq', hlink] at hl
            cases hl
          exact ⟨request', (hreq _).trans ((if_neg hne).trans hreq'), hl⟩
  have h₂ := h₁.trans (Effect.updateStatus h₁.sound p .processing none)
  exact (h₂.enqueue _).congr fun v _ => rfl

/-! ### Approvals -/

/-- Changing the approvals of one request changes how many of them are open. -/
lemma Effect.approvals {db : Db} (h : db.Sound) {p : PaymentId} {payment : Payment}
    (hp : db.payments.get? p = some payment) {approvals : List Approval} {n : ℕ}
    (hother : ∀ i, i ≠ payment.paymentRequestId →
      pendingApprovals { db with approvals } i = pendingApprovals db i)
    (hpending : pendingApprovals { db with approvals } payment.paymentRequestId = n)
    (hrows : ∀ a ∈ approvals, a.paymentRequestId < db.paymentRequests.nextId) :
    Effect p (fun v => { v with pending := n }) db { db with approvals } where
  here := by
    refine view_of_eq rfl rfl fun payment' request' hp' _ => ?_
    obtain rfl : payment = payment' := by simpa [hp] using hp'
    simp only [viewOf, hpending]
    rfl
  others q hq := by
    refine view_congr rfl rfl fun payment' request' hp' _ => ?_
    have hne : payment'.paymentRequestId ≠ payment.paymentRequestId := fun heq =>
      hq (payment_unique hp' hp heq)
    simp only [viewOf, hother _ hne]
    rfl
  sound := ⟨h.1, h.2, h.3, h.4, h.5, h.6, hrows⟩

/-- Deciding an open approval closes it. -/
lemma Effect.setApproval {db : Db} (h : db.Sound) {p : PaymentId} {v : PaymentView}
    (hv : view db p = some v) {id : ApprovalId} {a : Approval} (ha : db.approvals[id]? = some a)
    (hpending : a.status = .pending) (hreq : a.paymentRequestId = v.requestId)
    {s : ApprovalStatus} (hstatus : s ≠ .pending) (actor : String)
    (reason : Option String) :
    0 < v.pending ∧ Effect p (fun v => { v with pending := v.pending - 1 }) db
      (ControlRepository.setApproval db id s actor reason) := by
  obtain ⟨payment, request, hp, -, rfl⟩ := view_eq_some.mp hv
  have hcount := fun i => countP_modify
    (fun a : Approval => decide (a.paymentRequestId = i) && decide (a.status = .pending))
    (ControlRepository.decidedApproval s actor reason) ha
  simp only [ControlRepository.decidedApproval, hstatus, hpending, decide_false, decide_true,
    Bool.and_false, Bool.and_true, Bool.false_eq_true, if_false, add_zero, decide_eq_true_eq]
    at hcount
  have hthis := hcount payment.paymentRequestId
  have hreq : a.paymentRequestId = payment.paymentRequestId := hreq
  rw [if_pos hreq] at hthis
  have hv' : (viewOf db p payment request).pending =
      pendingApprovals db payment.paymentRequestId := rfl
  refine ⟨?_, (Effect.approvals h hp ?_ rfl ?_).congr fun v' hv'' => ?_⟩
  · rw [hv', pendingApprovals]
    omega
  · intro i hi
    have := hcount i
    rw [if_neg (by rw [hreq]; exact hi.symm), add_zero] at this
    exact this
  · intro a' ha'
    rcases mem_modify ha' with hmem | ⟨a₀, ha₀, rfl⟩
    · exact h.approval a' hmem
    · exact h.approval a₀ (List.mem_of_getElem? ha₀)
  · obtain rfl : viewOf db p payment request = v' := by simpa [hv] using hv''
    congr 1
    rw [hv']
    simp only [pendingApprovals]
    exact Nat.eq_sub_of_add_eq hthis

/-- The payment an approval is about: what the endpoints look up before they write. -/
def approvalTarget (db : Db) (id : ApprovalId) : Option PaymentId := do
  let approval ← db.approvals[id]?
  let (_, paymentId, _) ← ControlRepository.requestRow db approval.paymentRequestId
  return paymentId

lemma ControlRepository.requestRow_eq_some {db : Db} {i : RequestId}
    {request : PaymentRequest} {p : PaymentId} {payment : Payment}
    (h : requestRow db i = some (request, p, payment)) :
    db.paymentRequests.get? i = some request ∧ db.payments.get? p = some payment ∧
      payment.paymentRequestId = i := by
  simp only [requestRow, Option.bind_eq_bind, Option.bind_eq_some_iff, Option.pure_def,
    Option.some.injEq, Prod.mk.injEq] at h
  obtain ⟨request', hr, ⟨p', payment'⟩, hp, rfl, rfl, rfl⟩ := h
  obtain ⟨hp, hkey⟩ := Table.find?_eq_some.mp hp
  exact ⟨hr, hp, by simpa using hkey⟩

lemma ControlRepository.paymentRequest_eq_ok {env : Env} {db : Db} {i : RequestId}
    {row : Option (PaymentRequest × PaymentId × Payment)} :
    paymentRequest env db i = .ok row ↔ env.locksOuterJoins = true ∧ requestRow db i = row := by
  simp only [paymentRequest]
  split_ifs with h <;> simp [h]

lemma ControlRepository.paymentRequest_eq_error {env : Env} {db : Db} {i : RequestId} {e : Error}
    (h : paymentRequest env db i = .error e) : e = .featureNotSupported := by
  simp only [paymentRequest] at h
  split_ifs at h
  exact (Except.error.inj h).symm

/-- What `approve_payment` has checked and done when it returns. -/
lemma approvePayment_eq_ok {env : Env} {now : Time} {db db' : Db} {id : ApprovalId}
    {reason authorization : Option String} {p : PaymentId} {status : PaymentStatus}
    (hrun : approvePayment env now db id reason authorization = .ok ((p, status), db')) :
    ∃ actor approval request payment budgetId reservationId db₁,
      db.approvals[id]? = some approval ∧ approval.status = .pending ∧
      ControlRepository.requestRow db approval.paymentRequestId =
        some (request, p, payment) ∧
      payment.status = .approvalRequired ∧ request.budgetId = some budgetId ∧
      approval.intentDigest =
        (ControlRepository.bindingOf db approval.paymentRequestId request).digest env ∧
      PaymentOrchestrator.prepare
        (ControlRepository.setApproval db id .approved actor reason) p approval.paymentRequestId
        budgetId request.amount.toDecimal (normCurrency request.currency) =
          .ok (reservationId, db₁) ∧
      db' = enqueue db₁ (.paymentApproved p id actor) := by
  simp only [approvePayment] at hrun
  obtain ⟨actor, -, hrun⟩ := Except.bind_eq_ok.mp hrun
  split at hrun
  · cases hrun
  rename_i approval ha
  by_cases hpending : approval.status ≠ .pending
  · rw [if_pos hpending] at hrun
    cases hrun
  rw [if_neg hpending] at hrun
  split at hrun
  · cases hrun
  obtain ⟨row, hrow, hrun⟩ := Except.bind_eq_ok.mp hrun
  obtain ⟨-, rfl⟩ := ControlRepository.paymentRequest_eq_ok.mp hrow
  split at hrun
  · cases hrun
  rename_i request paymentId payment hreq
  by_cases hstatus : payment.status ≠ .approvalRequired
  · rw [if_pos hstatus] at hrun
    cases hrun
  rw [if_neg hstatus] at hrun
  split at hrun
  · cases hrun
  rename_i budgetId hbudget
  split at hrun
  · cases hrun
  rename_i hdigest
  obtain ⟨⟨reservationId, db₁⟩, hprepare, hrun⟩ := Except.bind_eq_ok.mp hrun
  obtain ⟨hp, rfl⟩ := Prod.mk.inj (Except.ok.inj hrun)
  obtain ⟨rfl, -⟩ := Prod.mk.inj hp
  exact ⟨actor, approval, request, payment, budgetId, reservationId, db₁, ha,
    not_not.mp hpending, hreq, not_not.mp hstatus, hbudget, not_not.mp hdigest, hprepare, rfl⟩

/-- What `deny_payment` has checked and done when it returns. -/
lemma denyPayment_eq_ok {env : Env} {db db' : Db} {id : ApprovalId}
    {reason authorization : Option String} {p : PaymentId} {status : PaymentStatus}
    (hrun : denyPayment env db id reason authorization = .ok ((p, status), db')) :
    ∃ actor approval request payment, db.approvals[id]? = some approval ∧
      approval.status = .pending ∧
      ControlRepository.requestRow db approval.paymentRequestId =
        some (request, p, payment) ∧
      db' = enqueue (PaymentRepository.updateStatus
        (ControlRepository.setApproval db id .denied actor reason) p .failed none)
        (.paymentFailed p (.userDenied id)) := by
  simp only [denyPayment] at hrun
  obtain ⟨actor, -, hrun⟩ := Except.bind_eq_ok.mp hrun
  split at hrun
  · cases hrun
  rename_i approval ha
  by_cases hpending : approval.status ≠ .pending
  · rw [if_pos hpending] at hrun
    cases hrun
  rw [if_neg hpending] at hrun
  obtain ⟨row, hrow, hrun⟩ := Except.bind_eq_ok.mp hrun
  obtain ⟨-, rfl⟩ := ControlRepository.paymentRequest_eq_ok.mp hrow
  split at hrun
  · cases hrun
  rename_i request paymentId payment hreq
  obtain ⟨hp, rfl⟩ := Prod.mk.inj (Except.ok.inj hrun)
  obtain ⟨rfl, -⟩ := Prod.mk.inj hp
  exact ⟨actor, approval, request, payment, ha, not_not.mp hpending, hreq, rfl⟩

/-- Both need a server that takes the lock of `payment_request`. -/
lemma approvePayment_locks {env : Env} {now : Time} {db : Db} {id : ApprovalId}
    {reason authorization : Option String} {x : (PaymentId × PaymentStatus) × Db}
    (hrun : approvePayment env now db id reason authorization = .ok x) :
    env.locksOuterJoins = true := by
  simp only [approvePayment] at hrun
  obtain ⟨actor, -, hrun⟩ := Except.bind_eq_ok.mp hrun
  split at hrun
  · cases hrun
  split_ifs at hrun
  · obtain ⟨row, hrow, -⟩ := Except.bind_eq_ok.mp hrun
    exact (ControlRepository.paymentRequest_eq_ok.mp hrow).1

lemma denyPayment_locks {env : Env} {db : Db} {id : ApprovalId}
    {reason authorization : Option String} {x : (PaymentId × PaymentStatus) × Db}
    (hrun : denyPayment env db id reason authorization = .ok x) : env.locksOuterJoins = true := by
  simp only [denyPayment] at hrun
  obtain ⟨actor, -, hrun⟩ := Except.bind_eq_ok.mp hrun
  split at hrun
  · cases hrun
  split_ifs at hrun
  · obtain ⟨row, hrow, -⟩ := Except.bind_eq_ok.mp hrun
    exact (ControlRepository.paymentRequest_eq_ok.mp hrow).1

/-- What every reachable view satisfies: a payment has at most one open approval, and while it
has one it waits for it and holds no reservation. -/
structure PaymentView.Regular (v : PaymentView) : Prop where
  single : v.pending ≤ 1
  waiting : 0 < v.pending → v.status = .approvalRequired ∧ v.reservation = none

/-- `approve_payment` is a step of the machine of the payment that waits. -/
lemma approvePayment_moves {env : Env} {now : Time} {db db' : Db} (h : db.Sound)
    (hreg : ∀ p v, view db p = some v → v.Regular) {id : ApprovalId}
    {reason authorization : Option String} {p : PaymentId} {status : PaymentStatus}
    (hrun : approvePayment env now db id reason authorization = .ok ((p, status), db')) :
    approvalTarget db id = some p ∧ Moves .approve p db db' := by
  obtain ⟨actor, approval, request, payment, budgetId, reservationId, db₁, ha, hpending, hreq,
    hstatus, -, -, hprepare, rfl⟩ := approvePayment_eq_ok hrun
  obtain ⟨hr, hp, hkey⟩ := ControlRepository.requestRow_eq_some hreq
  have hv : view db p = some (viewOf db p payment request) :=
    view_eq_some.mpr ⟨payment, request, hp, by rw [hkey]; exact hr, rfl⟩
  obtain ⟨hpos, h₁⟩ := Effect.setApproval (s := .approved) h hv ha hpending hkey.symm
    (by decide) actor reason
  have hnone : (viewOf db p payment request).reservation = none :=
    ((hreg p _ hv).waiting hpos).2
  have h₂ := h₁.trans (Effect.prepare h₁.sound (h₁.view_some hv) hnone hprepare)
  refine ⟨by simp [approvalTarget, ha, hreq], ?_⟩
  exact Moves.of_effect (g := fun v => { v with
    status := .processing, pending := v.pending - 1
    reservation := some (reservationId, .reserved) })
    hv (h₂.enqueue _) rfl (.approve hpos hstatus reservationId)

/-- `deny_payment` is a step of the machine of the payment the approval is about. -/
lemma denyPayment_steps {env : Env} {db db' : Db} (h : db.Sound) {id : ApprovalId}
    {reason authorization : Option String} {p : PaymentId} {status : PaymentStatus}
    (hrun : denyPayment env db id reason authorization = .ok ((p, status), db')) :
    approvalTarget db id = some p ∧
      ∃ v f, view db p = some v ∧ Effect p f db db' ∧ PaymentStep .deny v (f v) := by
  obtain ⟨actor, approval, request, payment, ha, hpending, hreq, rfl⟩ := denyPayment_eq_ok hrun
  obtain ⟨hr, hp, hkey⟩ := ControlRepository.requestRow_eq_some hreq
  have hv : view db p = some (viewOf db p payment request) :=
    view_eq_some.mpr ⟨payment, request, hp, by rw [hkey]; exact hr, rfl⟩
  obtain ⟨hpos, h₁⟩ := Effect.setApproval (s := .denied) h hv ha hpending hkey.symm
    (by decide) actor reason
  have h₂ := h₁.trans (Effect.updateStatus h₁.sound p .failed none)
  exact ⟨by simp [approvalTarget, ha, hreq], _, _, hv, h₂.enqueue _, .deny hpos⟩

lemma denyPayment_moves {env : Env} {db db' : Db} (h : db.Sound) {id : ApprovalId}
    {reason authorization : Option String} {p : PaymentId} {status : PaymentStatus}
    (hrun : denyPayment env db id reason authorization = .ok ((p, status), db')) :
    approvalTarget db id = some p ∧ Moves .deny p db db' := by
  obtain ⟨htarget, v, f, hv, heffect, hstep⟩ := denyPayment_steps h hrun
  exact ⟨htarget, Moves.of_effect hv heffect rfl hstep⟩

end AgentPay
