import AgentPay.BudgetConcurrency
import AgentPay.Runs

/-!
# What execution leaves alone

The worker, provider events, lifecycle operations and settlement reports execute what creation and
approval have decided. `Executes events db db'` says that they rewrite none of it: requests,
approvals, evidence and the terms of payments, budgets and reservations stay, the budgets' counters
go on counting their reservations, and `events` is what they append to the outbox.
-/

namespace AgentPay

open Support

/-! ### What was decided -/

/-- The tables that execution reads and never writes. -/
structure Decisions where
  merchants : List Merchant
  policies : List Policy
  policyVersions : List PolicyVersion
  authorizationEvidence : List AuthorizationEvidence
  paymentRequests : Table PaymentRequest PaymentRequest.key
  approvals : List Approval

def Db.decisions (db : Db) : Decisions :=
  ⟨db.merchants, db.policies, db.policyVersions, db.authorizationEvidence, db.paymentRequests,
    db.approvals⟩

/-- The columns of a payment that no update writes. -/
def Payment.terms (p : Payment) : RequestId × Amount × String :=
  (p.paymentRequestId, p.amount, p.currency)

/-- The columns of a budget that no code writes. -/
def Budget.terms (b : Budget) :
    String × Option PolicyId × String × ℕ × Bool × Option Time × Option Time :=
  (b.accountId, b.policyId, b.currency, b.limitAmount, b.active, b.periodStart, b.periodEnd)

/-- The columns of a reservation that no update writes. -/
def BudgetReservation.terms (r : BudgetReservation) : BudgetId × RequestId × Amount × String :=
  (r.budgetId, r.paymentRequestId, r.amount, r.currency)

/-- Every budget counts its reservations. -/
def Db.BudgetsAgree (db : Db) : Prop :=
  AgentPay.BudgetsAgree db.budgets db.budgetReservations.rows

structure Executes (events : List OutboxEvent) (db db' : Db) : Prop where
  decisions : db'.decisions = db.decisions
  payments : ∀ p, (db'.payments.get? p).map Payment.terms = (db.payments.get? p).map Payment.terms
  budgets : ∀ id : BudgetId,
    (db'.budgets[id]?).map Budget.terms = (db.budgets[id]?).map Budget.terms
  reservations : ∀ r, (db'.budgetReservations.get? r).map BudgetReservation.terms =
    (db.budgetReservations.get? r).map BudgetReservation.terms
  agree : db.BudgetsAgree → db'.BudgetsAgree
  outbox : db'.outboxEvents = db.outboxEvents ++ events

namespace Executes

variable {events events' : List OutboxEvent} {db db' db'' : Db}

lemma refl (db : Db) : Executes [] db db :=
  ⟨rfl, fun _ => rfl, fun _ => rfl, fun _ => rfl, id, (List.append_nil _).symm⟩

lemma trans (h : Executes events db db') (h' : Executes events' db' db'') :
    Executes (events ++ events') db db'' where
  decisions := h'.decisions.trans h.decisions
  payments p := (h'.payments p).trans (h.payments p)
  budgets id := (h'.budgets id).trans (h.budgets id)
  reservations r := (h'.reservations r).trans (h.reservations r)
  agree hagree := h'.agree (h.agree hagree)
  outbox := by rw [h'.outbox, h.outbox, List.append_assoc]

end Executes

/-- The database without the books: operations, events, transactions, journals and settlements. -/
def Db.unbooked (db : Db) : Db :=
  { db with
    providerOperations := .empty, providerEvents := .empty, transactions := .empty
    ledgerJournals := .empty, settlements := .empty, reconciliationRecords := [] }

/-- What is written on the books alone. -/
lemma Executes.of_unbooked {db db' : Db} (h : db'.unbooked = db.unbooked) : Executes [] db db' where
  decisions := (congrArg Db.decisions h :)
  payments p := (congrArg (fun db : Db => (db.payments.get? p).map Payment.terms) h :)
  budgets id := (congrArg (fun db : Db => (db.budgets[id]?).map Budget.terms) h :)
  reservations r :=
    (congrArg (fun db : Db => (db.budgetReservations.get? r).map BudgetReservation.terms) h :)
  agree hagree := by
    have hiff : db'.unbooked.BudgetsAgree ↔ db.unbooked.BudgetsAgree := by rw [h]
    exact hiff.mpr hagree
  outbox := ((congrArg Db.outboxEvents h :)).trans (List.append_nil _).symm

lemma Executes.providerEvents (db : Db) (providerEvents : Table ProviderEvent ProviderEvent.key) :
    Executes [] db { db with providerEvents } :=
  of_unbooked rfl

lemma Executes.updateCharges (db : Db) (p : PaymentId) (f : ProviderOperation → ProviderOperation)
    (hf : ∀ o, (f o).key = o.key) :
    Executes [] db (PaymentOrchestrator.updateCharges db p f hf) :=
  of_unbooked rfl

lemma Executes.decideOperation (db : Db) (id : OperationId) (status : OperationStatus)
    (reference : Option String) :
    Executes [] db (ProviderEventResolver.decideOperation db id status reference) :=
  of_unbooked rfl

lemma Executes.setTransactionStatus (db : Db) (id : TransactionId) (status : TransactionStatus) :
    Executes [] db (PaymentLifecycle.setTransactionStatus db id status) :=
  of_unbooked rfl

/-! ### Single statements -/

/-- An update of a payment that keeps its terms. -/
lemma Executes.updatePayment (db : Db) (p : PaymentId) (f : Payment → Payment)
    (hf : ∀ r, (f r).key = r.key) (hterms : ∀ r, (f r).terms = r.terms) :
    Executes [] db { db with payments := db.payments.update p f hf } where
  decisions := rfl
  payments q := by
    show ((db.payments.update p f hf).get? q).map Payment.terms = _
    rw [Table.get?_update]
    split_ifs
    · rw [Option.map_map]
      exact congrArg (Option.map · _) (funext hterms)
    · rfl
  budgets _ := rfl
  reservations _ := rfl
  agree := id
  outbox := (List.append_nil _).symm

lemma Executes.updateStatus (db : Db) (p : PaymentId) (status : PaymentStatus)
    (reference : Option String) :
    Executes [] db (PaymentRepository.updateStatus db p status reference) :=
  updatePayment db p (PaymentRepository.withStatus status reference) (fun _ => rfl) fun _ => rfl

lemma Executes.enqueue (db : Db) (event : OutboxEvent) :
    Executes [event] db (enqueue db event) :=
  ⟨rfl, fun _ => rfl, fun _ => rfl, fun _ => rfl, id, rfl⟩

/-! ### Settling a reservation -/

/-- What the settlement of one row does to the sum of the rows of a status. -/
lemma reservedUnder_modify {rows : List BudgetReservation} {r : ReservationId}
    {row : BudgetReservation} (hrow : rows[r]? = some row) (hreserved : row.status = .reserved)
    (call : SettleCall) (id : BudgetId) (status : ReservationStatus) :
    reservedUnder (rows.modify r fun row => { row with status := call.status }) id status +
        (if row.budgetId = id ∧ .reserved = status then row.amount.units else 0) =
      reservedUnder rows id status +
        (if row.budgetId = id ∧ call.status = status then row.amount.units else 0) := by
  have hsum := sum_map_modify (fun r : BudgetReservation =>
    if r.budgetId = id ∧ r.status = status then r.amount.units else 0)
    (fun row : BudgetReservation => { row with status := call.status }) hrow
  rw [hreserved] at hsum
  exact hsum

lemma SettleCall.budget_eq_ok {call : SettleCall} {b b' : Budget} {amount : Amount}
    (h : call.budget b amount = .ok b') :
    b'.terms = b.terms ∧ b.reservedAmount = b'.reservedAmount + amount.units ∧
      b'.consumedAmount = b.consumedAmount + if call = .consume then amount.units else 0 := by
  cases call <;> simp only [SettleCall.budget, Budget.consume, Budget.release] at h <;>
    split_ifs at h with hle <;> obtain rfl := Except.ok.inj h
  · exact ⟨rfl, by simp only; omega, rfl⟩
  · exact ⟨rfl, by simp only; omega, rfl⟩

/-- What `consume` and `release` do when they return. -/
lemma BudgetRepository.settle_cases {db db' : Db} {r : ReservationId} {status : ReservationStatus}
    {f : Budget → Amount → Except Error Budget} (hrun : settle db r status f = .ok db') :
    ∃ row, db.budgetReservations.get? r = some row ∧
      (row.status ≠ .reserved ∧ db' = db ∨
        row.status = .reserved ∧ ∃ budgets,
          db' = { setReservationStatus db r status with budgets } ∧
          (∀ id, id ≠ row.budgetId → budgets[id]? = db.budgets[id]?) ∧
          (db.budgets[row.budgetId]? = none ∧ budgets[row.budgetId]? = none ∨
            ∃ b b', db.budgets[row.budgetId]? = some b ∧ budgets[row.budgetId]? = some b' ∧
              f b row.amount = .ok b')) := by
  obtain ⟨row, -, hrow, -⟩ := BudgetRepository.settle_eq_ok hrun
  refine ⟨row, hrow, ?_⟩
  simp only [settle, hrow] at hrun
  split_ifs at hrun with hstatus
  · exact .inl ⟨hstatus, (Except.ok.inj hrun).symm⟩
  refine .inr ⟨not_not.mp hstatus, ?_⟩
  simp only [updateBudget] at hrun
  split at hrun
  · rename_i hnone
    exact ⟨db.budgets, (Except.ok.inj hrun).symm, fun _ _ => rfl, .inl ⟨hnone, hnone⟩⟩
  · rename_i b hb
    obtain ⟨b', hb', hrun⟩ := Except.bind_eq_ok.mp hrun
    have hb : db.budgets[row.budgetId]? = some b := hb
    refine ⟨db.budgets.set row.budgetId b', (Except.ok.inj hrun).symm, fun id hne => ?_,
      .inr ⟨b, b', hb, ?_, hb'⟩⟩
    · rw [List.getElem?_set_ne hne.symm]
    · rw [List.getElem?_set_self (List.getElem?_eq_some_iff.mp hb).1]

lemma Executes.settle {db db' : Db} {r : ReservationId} (call : SettleCall)
    (hrun : BudgetRepository.settle db r call.status call.budget = .ok db') :
    Executes [] db db' := by
  obtain ⟨row, hrow, ⟨-, rfl⟩ | ⟨hreserved, budgets, rfl, hother, hthis⟩⟩ :=
    BudgetRepository.settle_cases hrun
  · exact refl _
  have hunder := reservedUnder_modify hrow hreserved call
  refine ⟨rfl, fun _ => rfl, fun id => ?_, fun i => ?_, fun hagree id b₁ hb₁ => ?_,
    (List.append_nil _).symm⟩
  · by_cases hid : id = row.budgetId
    · subst hid
      rcases hthis with ⟨hnone, hnone'⟩ | ⟨b, b', hb, hb', hcall⟩
      · exact congrArg (Option.map _) (hnone'.trans hnone.symm)
      · show (budgets[row.budgetId]?).map _ = _
        rw [hb, hb']
        exact congrArg some (SettleCall.budget_eq_ok hcall).1
    · exact congrArg (Option.map _) (hother id hid)
  · show ((db.budgetReservations.update r
      (fun row : BudgetReservation => { row with status := call.status }) fun _ => rfl).get?
        i).map _ = _
    rw [Table.get?_update]
    split_ifs
    · rw [Option.map_map]
      rfl
    · rfl
  · have hb₁ : budgets[id]? = some b₁ := hb₁
    have hr := hunder id .reserved
    have hc := hunder id .consumed
    show _ = reservedUnder (db.budgetReservations.rows.modify r _) id _ ∧
      _ = reservedUnder (db.budgetReservations.rows.modify r _) id _ ∧ _
    by_cases hid : id = row.budgetId
    · subst hid
      rcases hthis with ⟨-, hnone⟩ | ⟨b, b', hb, hb', hcall⟩
      · rw [hnone] at hb₁
        cases hb₁
      obtain rfl := Option.some.inj (hb'.symm.trans hb₁)
      obtain ⟨hterms, hreservedAmount, hconsumed⟩ := SettleCall.budget_eq_ok hcall
      have hlimit : b'.limitAmount = b.limitAmount := (congrArg (·.2.2.2.1) hterms :)
      obtain ⟨h₁, h₂, h₃⟩ := hagree row.budgetId b hb
      cases call <;> simp [SettleCall.status] at hr hc hconsumed ⊢ <;> omega
    · rw [hother id hid] at hb₁
      obtain ⟨h₁, h₂, h₃⟩ := hagree id b₁ hb₁
      simp only [Ne.symm hid, false_and, if_false, add_zero] at hr hc
      rw [hr, hc]
      exact ⟨h₁, h₂, h₃⟩

/-! ### Rows on the books -/

lemma Executes.createProviderOperation {db db' : Db} {p : PaymentId} {type : OperationType}
    {key : OperationKey} {id : OperationId}
    (hrun : PaymentRepository.createProviderOperation db p type key = .ok (id, db')) :
    Executes [] db db' := by
  have hlinks : ∀ db₁ : Db, db₁.unbooked = db.unbooked →
      Executes [] db (PaymentRepository.setProviderOperation db₁ p id) := fun db₁ h₁ =>
    (of_unbooked h₁).trans (updatePayment db₁ p
      (fun p : Payment => { p with providerOperationId := some id }) (fun _ => rfl) fun _ => rfl)
  simp only [PaymentRepository.createProviderOperation] at hrun
  split at hrun
  · obtain ⟨rfl, rfl⟩ := Prod.mk.inj (Except.ok.inj hrun)
    exact hlinks _ rfl
  · split at hrun
    · cases hrun
    · split_ifs at hrun
      obtain ⟨rfl, rfl⟩ := Prod.mk.inj (Except.ok.inj hrun)
      exact hlinks db rfl

lemma postJournal_unbooked {db db' : Db} {currency : String} {reference : JournalReference}
    {key : JournalKey} {postings : List PostingInput} {id : ℕ}
    (hrun : postJournal db currency reference key postings = .ok (id, db')) :
    db'.unbooked = db.unbooked := by
  simp only [postJournal] at hrun
  split_ifs at hrun
  split at hrun
  · obtain ⟨-, rfl⟩ := Prod.mk.inj (Except.ok.inj hrun)
    rfl
  · obtain ⟨stored, -, hrun⟩ := Except.bind_eq_ok.mp hrun
    split at hrun
    · cases hrun
    · obtain ⟨-, rfl⟩ := Prod.mk.inj (Except.ok.inj hrun)
      rfl

lemma PaymentOrchestrator.upsertCapture_unbooked {db db' : Db} {p : PaymentId} {amount : Decimal}
    {currency : String} {id : TransactionId}
    (hrun : upsertCapture db p amount currency = .ok (id, db')) : db'.unbooked = db.unbooked := by
  simp only [upsertCapture] at hrun
  obtain ⟨stored, -, hrun⟩ := Except.bind_eq_ok.mp hrun
  split at hrun
  · obtain ⟨-, rfl⟩ := Prod.mk.inj (Except.ok.inj hrun)
    rfl
  · split at hrun
    · cases hrun
    · obtain ⟨-, rfl⟩ := Prod.mk.inj (Except.ok.inj hrun)
      rfl

lemma PaymentLifecycle.createTransaction_unbooked {db db' : Db} {p : PaymentId}
    {type : TransactionType} {amount : Decimal} {currency : String} {key : TransactionKey}
    {status : TransactionStatus} {id : TransactionId}
    (hrun : createTransaction db p type amount currency key status = .ok (id, db')) :
    db'.unbooked = db.unbooked := by
  simp only [createTransaction] at hrun
  split at hrun
  · obtain ⟨-, rfl⟩ := Prod.mk.inj (Except.ok.inj hrun)
    rfl
  · obtain ⟨stored, -, hrun⟩ := Except.bind_eq_ok.mp hrun
    split at hrun
    · cases hrun
    · obtain ⟨-, rfl⟩ := Prod.mk.inj (Except.ok.inj hrun)
      rfl

lemma ProviderEventResolver.createTransaction_unbooked {db db' : Db} {p : PaymentId}
    {amount : Decimal} {currency : String} {reference : Option String} {id : TransactionId}
    (hrun : createTransaction db p amount currency reference = .ok (id, db')) :
    db'.unbooked = db.unbooked := by
  simp only [createTransaction] at hrun
  split at hrun
  · obtain ⟨-, rfl⟩ := Prod.mk.inj (Except.ok.inj hrun)
    rfl
  · obtain ⟨stored, -, hrun⟩ := Except.bind_eq_ok.mp hrun
    split at hrun
    · cases hrun
    · obtain ⟨-, rfl⟩ := Prod.mk.inj (Except.ok.inj hrun)
      rfl

/-! ### The worker -/

lemma Worker.mark_executes {db db' : Db} {p : PaymentId} {accounts : LedgerAccounts} {c : Claim}
    (hrun : mark db p accounts = .ok (c, db')) : Executes [] db db' := by
  simp only [mark] at hrun
  split at hrun
  · cases hrun
  split at hrun
  · cases hrun
  split at hrun
  · cases hrun
  obtain ⟨⟨id, db₁⟩, hcreate, hrun⟩ := Except.bind_eq_ok.mp hrun
  obtain ⟨-, rfl⟩ := Prod.mk.inj (Except.ok.inj hrun)
  exact (Executes.createProviderOperation hcreate).trans (.updateStatus ..)

/-- The event a finalization announces its outcome with. -/
def ProviderOutcome.event (outcome : ProviderOutcome) (p : PaymentId)
    (reservationId : ReservationId) (amount : Decimal) (currency : String) : OutboxEvent :=
  match outcome with
  | .succeeded => .paymentSucceeded p amount currency
  | .failed    => .paymentFailed p (.provider reservationId)
  | .unknown   => .paymentOutcomeUnknown p reservationId

/-- `finalize` does nothing, or announces what it does. -/
lemma PaymentOrchestrator.finalize_executes {db db' : Db} {p : PaymentId} {requestId : RequestId}
    {reservationId : ReservationId} {amount : Decimal} {currency : String}
    {accounts : LedgerAccounts} {outcome : ProviderOutcome} {reference : Option String}
    {status : PaymentStatus}
    (hrun : finalize db p requestId reservationId amount currency accounts outcome reference =
      .ok (status, db')) :
    db' = db ∨ Executes [outcome.event p reservationId amount currency] db db' := by
  simp only [finalize] at hrun
  split at hrun
  · cases hrun
  split_ifs at hrun
  · exact .inl (Prod.mk.inj (Except.ok.inj hrun)).2.symm
  · exact .inl (Prod.mk.inj (Except.ok.inj hrun)).2.symm
  · exact .inl (Prod.mk.inj (Except.ok.inj hrun)).2.symm
  right
  cases outcome with
  | unknown =>
    obtain ⟨-, rfl⟩ := Prod.mk.inj (Except.ok.inj hrun)
    exact ((Executes.updateCharges ..).trans (.updateStatus ..)).trans (.enqueue ..)
  | failed =>
    obtain ⟨db₃, hfailed, hrun⟩ := Except.bind_eq_ok.mp hrun
    obtain ⟨-, rfl⟩ := Prod.mk.inj (Except.ok.inj hrun)
    obtain ⟨db₂, hrelease, hfailed⟩ := Except.bind_eq_ok.mp hfailed
    obtain rfl := Except.ok.inj hfailed
    exact (((Executes.updateCharges ..).trans (.settle .release hrelease)).trans
      (.updateStatus ..)).trans (.enqueue ..)
  | succeeded =>
    obtain ⟨db₅, hsucceeded, hrun⟩ := Except.bind_eq_ok.mp hrun
    obtain ⟨-, rfl⟩ := Prod.mk.inj (Except.ok.inj hrun)
    obtain ⟨db₂, hconsume, hsucceeded⟩ := Except.bind_eq_ok.mp hsucceeded
    obtain ⟨⟨t, db₃⟩, hupsert, hsucceeded⟩ := Except.bind_eq_ok.mp hsucceeded
    obtain ⟨⟨j, db₄⟩, hpost, hsucceeded⟩ := Except.bind_eq_ok.mp hsucceeded
    obtain rfl := Except.ok.inj hsucceeded
    have hbooks : db₄.unbooked = db₂.unbooked :=
      (postJournal_unbooked hpost).trans (upsertCapture_unbooked hupsert)
    exact ((((Executes.updateCharges ..).trans (.settle .consume hconsume)).trans
      (.of_unbooked hbooks)).trans (.updateStatus ..)).trans (.enqueue ..)

/-! ### Provider events -/

lemma ProviderEventResolver.resolve_executes {db db' : Db} {event : EventId} {id : OperationId}
    {outcome : String} {reference : Option String} {accounts : LedgerAccounts}
    {resolution : Resolution}
    (hrun : resolve db event id outcome reference accounts = .ok (resolution, db')) :
    Executes [] db db' := by
  obtain ⟨row, -, -, ⟨-, -, rfl⟩ | ⟨-, o, payment, request, -, hcase⟩⟩ := resolve_eq_ok hrun
  · exact .refl _
  rcases hcase with ⟨-, -, rfl⟩ | ⟨-, -, db₁, rfl, ⟨-, hdone⟩ | ⟨-, hdone⟩⟩
  · exact .providerEvents ..
  · simp only [resolveSucceeded] at hdone
    have h₁ := Executes.decideOperation db id .succeeded reference
    split_ifs at hdone
    · obtain ⟨db₂, hsettle, hdone⟩ := Except.bind_eq_ok.mp hdone
      obtain rfl := Except.ok.inj hdone
      simp only [settleCharge] at hsettle
      split at hsettle
      · cases hsettle
      obtain ⟨db₃, hconsume, hsettle⟩ := Except.bind_eq_ok.mp hsettle
      obtain ⟨⟨t, db₄⟩, hcreate, hsettle⟩ := Except.bind_eq_ok.mp hsettle
      obtain ⟨⟨j, db₅⟩, hpost, hsettle⟩ := Except.bind_eq_ok.mp hsettle
      obtain rfl := Except.ok.inj hsettle
      have hbooks : (postTransaction db₅ t).unbooked = db₃.unbooked :=
        (postJournal_unbooked hpost).trans (createTransaction_unbooked hcreate)
      exact (((h₁.trans (.settle .consume hconsume)).trans (.of_unbooked hbooks)).trans
        (.updateStatus ..)).trans (.providerEvents ..)
    · obtain rfl := Except.ok.inj hdone
      exact (h₁.trans (.updateStatus ..)).trans (.providerEvents ..)
  · simp only [resolveFailed] at hdone
    have h₁ := Executes.decideOperation db id .failed reference
    split at hdone
    · obtain ⟨db₂, hrelease, hdone⟩ := Except.bind_eq_ok.mp hdone
      obtain rfl := Except.ok.inj hdone
      exact ((h₁.trans (.settle .release hrelease)).trans (.updateStatus ..)).trans
        (.providerEvents ..)
    · obtain rfl := Except.ok.inj hdone
      exact (h₁.trans (.updateStatus ..)).trans (.providerEvents ..)

lemma providerWebhook_executes {window : Option ℤ} {now : ℤ} {db db' : Db} {delivery : Delivery}
    {status : WebhookStatus} (hrun : providerWebhook window now db delivery = .ok (status, db')) :
    Executes [] db db' := by
  obtain ⟨eventId, eventType, reference, -, happly⟩ := providerWebhook_eq_ok hrun
  rcases applyEvent_eq_ok happly with ⟨events, rfl⟩ |
    ⟨events, event, outcome, reference, id, o, accounts, resolution, -, -, -, -, -, events',
      hresolve⟩
  · exact .providerEvents ..
  · exact (Executes.providerEvents db events').trans
      (ProviderEventResolver.resolve_executes hresolve)

/-! ### Lifecycle operations and settlement reports -/

namespace PaymentLifecycle

lemma capture_executes {db db' : Db} {p : PaymentId} {amount : Decimal} {currency : String}
    {accounts : LedgerAccounts} {outcome : ProviderOutcome} {status : PaymentStatus}
    (hrun : (capture db p amount currency accounts >>= Progress.answer outcome) =
      .ok (status, db')) : Executes [] db db' := by
  obtain ⟨progress, hcapture, hanswer⟩ := Except.bind_eq_ok.mp hrun
  rcases capture_eq_ok hcapture with rfl | ⟨payment, id, db₁, minor, -, -, -, hop, -, rfl⟩
  · obtain ⟨-, rfl⟩ := Prod.mk.inj (Except.ok.inj hanswer)
    exact .refl _
  have h₁ := Executes.createProviderOperation hop
  cases outcome with
  | unknown =>
    obtain ⟨-, rfl⟩ := Prod.mk.inj (Except.ok.inj hanswer)
    exact h₁.trans (.updateStatus ..)
  | failed =>
    obtain ⟨⟨t, db₂⟩, hcreate, hanswer⟩ := Except.bind_eq_ok.mp hanswer
    obtain ⟨-, rfl⟩ := Prod.mk.inj (Except.ok.inj hanswer)
    exact (h₁.trans (.updateStatus ..)).trans (.of_unbooked (createTransaction_unbooked hcreate))
  | succeeded =>
    obtain ⟨⟨t, db₂⟩, hcreate, hanswer⟩ := Except.bind_eq_ok.mp hanswer
    obtain ⟨⟨j, db₃⟩, hpost, hanswer⟩ := Except.bind_eq_ok.mp hanswer
    obtain ⟨-, rfl⟩ := Prod.mk.inj (Except.ok.inj hanswer)
    exact (h₁.trans (.of_unbooked ((postJournal_unbooked hpost).trans
      (createTransaction_unbooked hcreate)))).trans (.updateStatus ..)

lemma void_executes {db db' : Db} {p : PaymentId} {amount : Decimal} {currency : String}
    {outcome : ProviderOutcome} {status : PaymentStatus}
    (hrun : (void db p amount currency >>= Progress.answer outcome) = .ok (status, db')) :
    Executes [] db db' := by
  obtain ⟨progress, hvoid, hanswer⟩ := Except.bind_eq_ok.mp hrun
  rcases void_eq_ok hvoid with rfl | ⟨payment, id, db₁, minor, -, -, -, hop, -, rfl⟩
  · obtain ⟨-, rfl⟩ := Prod.mk.inj (Except.ok.inj hanswer)
    exact .refl _
  have h₁ := (Executes.updateStatus db p .voidRequested none).trans
    (Executes.createProviderOperation hop)
  cases outcome with
  | unknown =>
    obtain ⟨-, rfl⟩ := Prod.mk.inj (Except.ok.inj hanswer)
    exact h₁.trans (.updateStatus ..)
  | failed =>
    obtain ⟨⟨t, db₂⟩, hcreate, hanswer⟩ := Except.bind_eq_ok.mp hanswer
    obtain ⟨-, rfl⟩ := Prod.mk.inj (Except.ok.inj hanswer)
    exact (h₁.trans (.updateStatus ..)).trans (.of_unbooked (createTransaction_unbooked hcreate))
  | succeeded =>
    obtain ⟨⟨t, db₂⟩, hcreate, hanswer⟩ := Except.bind_eq_ok.mp hanswer
    obtain ⟨-, rfl⟩ := Prod.mk.inj (Except.ok.inj hanswer)
    exact (h₁.trans (.of_unbooked (createTransaction_unbooked hcreate))).trans (.updateStatus ..)

lemma refund_executes {db db' : Db} {p : PaymentId} {amount : Decimal} {rawCurrency : String}
    {accounts : LedgerAccounts} {outcome : ProviderOutcome} {status : PaymentStatus}
    (hrun : (refund db p amount rawCurrency accounts >>= Progress.answer outcome) =
      .ok (status, db')) : Executes [] db db' := by
  obtain ⟨progress, hrefund, hanswer⟩ := Except.bind_eq_ok.mp hrun
  rcases refund_eq_ok hrefund with ⟨status', rfl, -⟩ |
    ⟨payment, id, db₁, refundId, db₂, minor, -, -, -, -, -, -, hop, hcreate, -, rfl⟩
  · obtain ⟨-, rfl⟩ := Prod.mk.inj (Except.ok.inj hanswer)
    exact .refl _
  have h₂ := ((Executes.updateStatus db p .refundProcessing none).trans
    (Executes.createProviderOperation hop)).trans
      (.of_unbooked (createTransaction_unbooked hcreate))
  cases outcome with
  | unknown =>
    obtain ⟨-, rfl⟩ := Prod.mk.inj (Except.ok.inj hanswer)
    exact h₂.trans (.updateStatus ..)
  | failed =>
    obtain ⟨-, rfl⟩ := Prod.mk.inj (Except.ok.inj hanswer)
    exact (h₂.trans (.setTransactionStatus ..)).trans (.updateStatus ..)
  | succeeded =>
    obtain ⟨⟨j, db₃⟩, hpost, hanswer⟩ := Except.bind_eq_ok.mp hanswer
    obtain ⟨-, rfl⟩ := Prod.mk.inj (Except.ok.inj hanswer)
    have h₃ := h₂.trans (.setTransactionStatus db₂ refundId .posted)
    exact (h₃.trans (.of_unbooked (postJournal_unbooked hpost))).trans (.updateStatus ..)

end PaymentLifecycle

lemma SettlementRepository.ingest_executes {db db' : Db} {report : SettlementReport}
    {status : IngestStatus} (hrun : ingest db report = .ok (status, db')) : Executes [] db db' := by
  obtain ⟨settlements, records, rfl⟩ := ingest_eq_ok hrun
  exact .of_unbooked rfl

end AgentPay
