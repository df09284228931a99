import AgentPay.BudgetConcurrency
import AgentPay.Terminal

/-!
# Charging twice

The rows that `process_one` works on, and what its two transactions make of them: the first
finalization books the provider's answer, and a later one with the same answer finds everything
booked and only writes the status back.
-/

namespace AgentPay

open Support

/-! ### All tables but the outbox -/

/-- The database without its outbox. -/
def Db.books (db : Db) : Db := { db with outboxEvents := [] }

@[simp] lemma Db.books_books (db : Db) : db.books.books = db.books := rfl

@[simp] lemma Db.books_enqueue (db : Db) (event : OutboxEvent) :
    (enqueue db event).books = db.books := rfl

lemma BudgetRepository.settle_books (db : Db) (id : ReservationId) (status : ReservationStatus)
    (f : Budget → Amount → Except Error Budget) :
    settle db.books id status f = (settle db id status f).map Db.books := by
  simp only [settle, updateBudget, setReservationStatus, Db.books]
  split
  · rfl
  · split_ifs
    · rfl
    · split
      · rfl
      · cases f _ _ <;> rfl

lemma PaymentOrchestrator.upsertCapture_books (db : Db) (p : PaymentId) (amount : Decimal)
    (currency : String) :
    upsertCapture db.books p amount currency =
      (upsertCapture db p amount currency).map fun x => (x.1, x.2.books) := by
  simp only [upsertCapture, Db.books]
  cases Amount.store amount with
  | error e => rfl
  | ok stored =>
    simp only [Except.map, bind, Except.bind]
    split
    · rfl
    · split <;> rfl

lemma postJournal_books (db : Db) (currency : String) (reference : JournalReference)
    (key : JournalKey) (postings : List PostingInput) :
    postJournal db.books currency reference key postings =
      (postJournal db currency reference key postings).map fun x => (x.1, x.2.books) := by
  have hstore : storePosting db.books = storePosting db := rfl
  have hjournals : db.books.ledgerJournals = db.ledgerJournals := rfl
  simp only [postJournal, hstore, hjournals]
  split_ifs
  · rfl
  · rfl
  · split
    · rfl
    · cases postings.mapM (storePosting db) with
      | error e => rfl
      | ok stored =>
        simp only [bind, Except.bind]
        split <;> rfl

lemma PaymentOrchestrator.finalizeFailed_books (db : Db) (p : PaymentId)
    (reservationId : ReservationId) (reference : Option String) :
    (finalizeFailed db.books p reservationId reference).map Db.books =
      (finalizeFailed db p reservationId reference).map Db.books := by
  have hbooks : finalizeFailed db.books p reservationId reference =
      BudgetRepository.settle (updateCharges db p (decided .failed reference) fun _ => rfl).books
          reservationId .released Budget.release >>= fun db =>
        pure (enqueue (PaymentRepository.updateStatus db p .failed reference)
          (.paymentFailed p (.provider reservationId))) := rfl
  rw [hbooks, BudgetRepository.settle_books]
  simp only [finalizeFailed, BudgetRepository.release]
  cases BudgetRepository.settle _ reservationId .released Budget.release <;> rfl

lemma PaymentOrchestrator.finalizeSucceeded_books (db : Db) (p : PaymentId)
    (reservationId : ReservationId) (amount : Decimal) (currency : String)
    (accounts : LedgerAccounts) (reference : Option String) :
    (finalizeSucceeded db.books p reservationId amount currency accounts reference).map Db.books =
      (finalizeSucceeded db p reservationId amount currency accounts reference).map Db.books := by
  have hcharges : updateCharges db.books p (decided .succeeded reference) (fun _ => rfl) =
      (updateCharges db p (decided .succeeded reference) fun _ => rfl).books := rfl
  simp only [finalizeSucceeded, BudgetRepository.consume]
  rw [hcharges, BudgetRepository.settle_books]
  cases BudgetRepository.settle _ reservationId .consumed Budget.consume with
  | error e => rfl
  | ok db₁ =>
    simp only [Except.map, bind, Except.bind, upsertCapture_books]
    cases upsertCapture db₁ p amount currency with
    | error e => rfl
    | ok x =>
      simp only [postJournal_books]
      cases postJournal x.2 currency _ _ _ <;> rfl

/-! ### A payment that is taken up -/

lemma get?_updateStatus (db : Db) (p : PaymentId) (status : PaymentStatus)
    (reference : Option String) :
    (PaymentRepository.updateStatus db p status reference).payments.get? p =
      (db.payments.get? p).map (PaymentRepository.withStatus status reference) :=
  Table.get?_update_self _ _ (PaymentRepository.withStatus status reference) fun _ => rfl

/-- A status update is what it does to the payment row. -/
lemma updateStatus_congr {db : Db} {p : PaymentId} {payment : Payment}
    (hp : db.payments.get? p = some payment) {status status' : PaymentStatus}
    {reference reference' : Option String}
    (h : PaymentRepository.withStatus status reference payment =
      PaymentRepository.withStatus status' reference' payment) :
    PaymentRepository.updateStatus db p status reference =
      PaymentRepository.updateStatus db p status' reference' :=
  congrArg (fun payments => ({ db with payments } : Db)) (Table.update_congr hp h)

lemma updateStatus_eq_self {db : Db} {p : PaymentId} {payment : Payment}
    (hp : db.payments.get? p = some payment) :
    PaymentRepository.updateStatus db p payment.status none = db :=
  congrArg (fun payments => ({ db with payments } : Db)) (Table.update_eq_self hp _ rfl)

lemma updateStatus_updateStatus (db : Db) (p : PaymentId) (status status' : PaymentStatus) :
    PaymentRepository.updateStatus (PaymentRepository.updateStatus db p status none) p status'
      none = PaymentRepository.updateStatus db p status' none :=
  congrArg (fun payments => ({ db with payments } : Db))
    (@Table.update_update _ _ _ db.payments p (PaymentRepository.withStatus status none)
      (PaymentRepository.withStatus status' none) (fun _ => rfl) fun _ => rfl)

/-- The rows a `process_one` call works on: the payment it took up, linked with its only CHARGE
operation, and the request with the reservation. -/
structure Worker.TakenUp (db : Db) (c : Claim) (payment : Payment) (operationId : OperationId)
    (o : ProviderOperation) : Prop where
  row : db.payments.get? c.paymentId = some payment
  request : payment.paymentRequestId = c.requestId
  amount : payment.amount = c.amount
  currency : payment.currency = c.currency
  linked : payment.providerOperationId = some operationId
  operation : db.providerOperations.get? operationId = some o
  key : o.idempotencyKey = .charge c.paymentId
  about : o.paymentId = c.paymentId ∧ o.operationType = .charge
  only : ∀ o' ∈ db.providerOperations.rows, o'.paymentId = c.paymentId →
    o'.operationType = .charge → o'.idempotencyKey = .charge c.paymentId
  reservation : ∃ request, db.paymentRequests.get? c.requestId = some request ∧
    request.budgetReservationId = some c.reservationId

namespace Worker.TakenUp

variable {db db' : Db} {c : Worker.Claim} {payment : Payment} {operationId : OperationId}
  {o : ProviderOperation}

/-- Only the three tables matter. -/
lemma congr (h : TakenUp db c payment operationId o) (db' : Db)
    (hpayments : db'.payments = db.payments)
    (hrequests : db'.paymentRequests = db.paymentRequests)
    (hoperations : db'.providerOperations = db.providerOperations) :
    TakenUp db' c payment operationId o := by
  obtain ⟨h₁, h₂, h₃, h₄, h₅, h₆, h₇, h₈, h₉, h₁₀⟩ := h
  exact ⟨by rwa [hpayments], h₂, h₃, h₄, h₅, by rwa [hoperations], h₇, h₈, by rwa [hoperations],
    by rwa [hrequests]⟩

lemma find (h : TakenUp db c payment operationId o) :
    db.providerOperations.find? (.charge c.paymentId) = some (operationId, o) :=
  Table.find?_eq_some.mpr ⟨h.operation, congrArg some h.key⟩

/-- The charge is the only operation that the updates by payment and type reach. -/
lemma eq_charge (h : TakenUp db c payment operationId o) {o' : ProviderOperation}
    (ho' : o' ∈ db.providerOperations.rows) (hp : o'.paymentId = c.paymentId)
    (ht : o'.operationType = .charge) : o' = o :=
  Table.row_unique ho' (Table.mem_of_get? h.operation)
    (congrArg some (h.only o' ho' hp ht)) (congrArg some h.key)

lemma updateStatus (h : TakenUp db c payment operationId o) (status : PaymentStatus)
    (reference : Option String) :
    TakenUp (PaymentRepository.updateStatus db c.paymentId status reference) c
      (PaymentRepository.withStatus status reference payment) operationId o := by
  obtain ⟨h₁, h₂, h₃, h₄, h₅, h₆, h₇, h₈, h₉, h₁₀⟩ := h
  refine ⟨?_, h₂, h₃, h₄, h₅, h₆, h₇, h₈, h₉, h₁₀⟩
  rw [get?_updateStatus, h₁]
  rfl

lemma updateCharges (h : TakenUp db c payment operationId o)
    (f : ProviderOperation → ProviderOperation) (hf : ∀ o, (f o).key = o.key)
    (hpayment : ∀ o, (f o).paymentId = o.paymentId)
    (htype : ∀ o, (f o).operationType = o.operationType) :
    TakenUp (PaymentOrchestrator.updateCharges db c.paymentId f hf) c payment operationId
      (f o) := by
  obtain ⟨h₁, h₂, h₃, h₄, h₅, h₆, h₇, h₈, h₉, h₁₀⟩ := h
  have hkey : ∀ o, (f o).idempotencyKey = o.idempotencyKey := fun o => Option.some.inj (hf o)
  refine ⟨h₁, h₂, h₃, h₄, h₅, ?_, by rw [hkey, h₇], by rw [hpayment, htype]; exact h₈, ?_, h₁₀⟩
  · simp only [Table.get?] at h₆
    simp [PaymentOrchestrator.updateCharges, Table.get?, h₆, h₈]
  · intro o' ho' hp ht
    simp only [PaymentOrchestrator.updateCharges, Table.rows_updateWhere, List.mem_map] at ho'
    obtain ⟨o₀, ho₀, rfl⟩ := ho'
    split_ifs at hp ht ⊢ with hsel
    · rw [hpayment] at hp
      rw [htype] at ht
      rw [hkey]
      exact h₉ o₀ ho₀ hp ht
    · exact h₉ o₀ ho₀ hp ht

/-- A rewrite that leaves the charge as it is leaves everything as it is. -/
lemma updateCharges_eq_self (h : TakenUp db c payment operationId o)
    {f : ProviderOperation → ProviderOperation} {hf : ∀ o, (f o).key = o.key} (hfo : f o = o) :
    PaymentOrchestrator.updateCharges db c.paymentId f hf = db := by
  have hrows : (db.providerOperations.updateWhere
      (fun o => decide (o.paymentId = c.paymentId) && decide (o.operationType = .charge)) f hf) =
      db.providerOperations := by
    apply Table.ext_rows
    rw [Table.rows_updateWhere]
    conv_rhs => rw [← List.map_id db.providerOperations.rows]
    refine List.map_congr_left fun o' ho' => ?_
    split_ifs with hsel
    · simp only [Bool.and_eq_true, decide_eq_true_eq] at hsel
      rw [h.eq_charge ho' hsel.1 hsel.2, hfo]
      rfl
    · rfl
  rw [PaymentOrchestrator.updateCharges, hrows]

/-- The durable answer is that of the charge. -/
lemma durable (h : TakenUp db c payment operationId o) :
    Worker.durable db c.paymentId = o.status.outcome?.map (⟨·, o.providerReference⟩) := by
  have hlast : lastIdx? (fun o : ProviderOperation =>
      decide (o.paymentId = c.paymentId) && decide (o.operationType = .charge))
      db.providerOperations.rows = some operationId := by
    refine lastIdx?_eq_some.mpr ⟨⟨o, h.operation, by simp [h.about]⟩, fun j o' hj ho' => ?_⟩
    by_contra hsel
    simp only [Bool.not_eq_false, Bool.and_eq_true, decide_eq_true_eq] at hsel
    have hkey := h.only o' (List.mem_of_getElem? ho') hsel.1 hsel.2
    have := Table.id_unique h.operation ho' (congrArg some h.key) (congrArg some hkey)
    omega
  rw [Worker.durable, hlast]
  simp only [Option.bind_eq_bind, Option.bind_some, h.operation]
  cases o.status.outcome? <;> rfl

/-- Taking it up again changes its status and nothing else. -/
lemma mark (h : TakenUp db c payment operationId o) :
    Worker.mark db c.paymentId c.accounts =
      .ok (c, PaymentRepository.updateStatus db c.paymentId .processing none) := by
  obtain ⟨request, hr, hlink⟩ := h.reservation
  have hinsert : db.providerOperations.insert?
      (PaymentRepository.newOperation c.paymentId .charge (.charge c.paymentId)) = none := by
    rw [Table.insert?_eq_none]
    intro hadmits
    exact hadmits _ rfl o (Table.mem_of_get? h.operation) (congrArg some h.key)
  have hset : PaymentRepository.setProviderOperation db c.paymentId operationId = db := by
    rw [PaymentRepository.setProviderOperation, Table.update_eq_self h.row]
    rw [← h.linked]
  simp only [Worker.mark, h.row, h.request, hr, hlink,
    PaymentRepository.createProviderOperation, hinsert, h.find, h.about.1, h.about.2, hset]
  simp only [ne_eq, not_true, or_self, if_false, bind, Except.bind, pure, Except.pure]
  obtain ⟨p, i, r, a, cur, acc⟩ := c
  simp only [Except.ok.injEq, Prod.mk.injEq, and_true]
  have := h.amount
  have := h.currency
  simp_all

end Worker.TakenUp

/-! ### Finalizing again -/

/-- The charge row after an answer. -/
def ProviderAnswer.chargeRow (a : ProviderAnswer) (o : ProviderOperation) : ProviderOperation :=
  match a.outcome with
  | .succeeded => PaymentOrchestrator.decided .succeeded a.reference o
  | .failed    => PaymentOrchestrator.decided .failed a.reference o
  | .unknown   => { o with status := .unknown }

/-- The tables hold everything that an answer to the charge makes of them, the payment's status
apart. -/
structure Worker.Booked (db : Db) (c : Claim) (payment : Payment) (o : ProviderOperation)
    (a : ProviderAnswer) : Prop where
  reference : (a.reference <|> payment.providerReference) = payment.providerReference
  charge : a.chargeRow o = o
  reservation : a.outcome ≠ .unknown →
    ∃ row, db.budgetReservations.get? c.reservationId = some row ∧ row.status ≠ .reserved
  capture : a.outcome = .succeeded → ∃ id t, db.transactions.get? id = some t ∧
    t.idempotencyKey = .capture c.paymentId ∧ t.status = .posted
  journal : a.outcome = .succeeded →
    ∃ id, db.ledgerJournals.idOf? (.capture c.paymentId) = some id

lemma settle_of_settled {db : Db} {id : ReservationId} {row : BudgetReservation}
    (hrow : db.budgetReservations.get? id = some row) (hstatus : row.status ≠ .reserved)
    (status : ReservationStatus) (f : Budget → Amount → Except Error Budget) :
    BudgetRepository.settle db id status f = .ok db := by
  simp only [BudgetRepository.settle, hrow, if_pos hstatus]

lemma upsertCapture_of_posted {db : Db} {p : PaymentId} {id : TransactionId} {t : Transaction}
    (ht : db.transactions.get? id = some t) (hkey : t.idempotencyKey = .capture p)
    (hstatus : t.status = .posted) {amount : Decimal} {stored : Amount}
    (hstored : Amount.store amount = .ok stored) (currency : String) :
    PaymentOrchestrator.upsertCapture db p amount currency = .ok (id, db) := by
  have hid := Table.idOf?_eq_some.mpr ⟨t, ht, congrArg some hkey⟩
  have hpost : postTransaction db id = db := by
    rw [postTransaction, Table.update_eq_self ht _ (by rw [← hstatus])]
  simp only [PaymentOrchestrator.upsertCapture, hstored]
  rw [Except.bind_eq_ok]
  refine ⟨stored, rfl, ?_⟩
  split
  · rename_i transactions hinsert
    have hadmits := (Table.insert?_eq_some.mp hinsert).1
    exact absurd (congrArg some hkey) (hadmits _ rfl t (Table.mem_of_get? ht))
  · rw [hid]
    simp only [hpost]
    rfl

/-- The branch of `finalize` that an answer selects. -/
def Worker.branch (db : Db) (c : Claim) (a : ProviderAnswer) : Except Error Db :=
  match a.outcome with
  | .unknown =>
    .ok (PaymentOrchestrator.finalizeUnknown db c.paymentId c.reservationId a.reference)
  | .failed =>
    PaymentOrchestrator.finalizeFailed db c.paymentId c.reservationId a.reference
  | .succeeded =>
    PaymentOrchestrator.finalizeSucceeded db c.paymentId c.reservationId c.amount.toDecimal
      c.currency c.accounts a.reference

/-- `finalize` runs its branch on a payment in PROCESSING. -/
lemma Worker.TakenUp.finalize {db : Db} {c : Claim} {payment : Payment}
    {operationId : OperationId} {o : ProviderOperation}
    (h : TakenUp db c payment operationId o)
    (hcurrency : normCurrency c.currency = upper c.currency)
    (hstatus : payment.status = .processing) (a : ProviderAnswer) :
    Worker.finalize db c a =
      (branch db c a).map fun db => (a.outcome.paymentStatus, db) := by
  have hbinds : ¬(payment.amount.toDecimal.units ≠ c.amount.toDecimal.units ∨
      normCurrency payment.currency ≠ upper c.currency) := by
    simp [h.amount, h.currency, hcurrency]
  have hexec : PaymentStatus.processing.Executable := .inl rfl
  simp only [Worker.finalize, PaymentOrchestrator.finalize, h.row, h.request, ne_eq, not_true,
    if_false, if_neg hbinds, hstatus, hexec, reduceCtorEq, false_and, branch]
  cases a.outcome with
  | unknown => rfl
  | failed =>
    cases PaymentOrchestrator.finalizeFailed db c.paymentId c.reservationId a.reference <;> rfl
  | succeeded =>
    cases PaymentOrchestrator.finalizeSucceeded db c.paymentId c.reservationId
      c.amount.toDecimal c.currency c.accounts a.reference <;> rfl

/-- A second finalization with the answer that is booked writes the status and an outbox row. -/
lemma Worker.Booked.branch {db : Db} {c : Claim} {payment : Payment}
    {operationId : OperationId} {o : ProviderOperation} {a : ProviderAnswer}
    (h : Booked db c payment o a) (ht : TakenUp db c payment operationId o) :
    ∃ d, Worker.branch db c a = .ok d ∧ d.books =
      (PaymentRepository.updateStatus db c.paymentId a.outcome.paymentStatus none).books := by
  have hsame : ∀ status, PaymentRepository.updateStatus db c.paymentId status a.reference =
      PaymentRepository.updateStatus db c.paymentId status none := by
    intro status
    have hrow : PaymentRepository.withStatus status a.reference payment =
        PaymentRepository.withStatus status none payment := by
      simp only [PaymentRepository.withStatus, h.reference]
      rfl
    exact updateStatus_congr ht.row hrow
  have hcharge := h.charge
  obtain ⟨outcome, reference⟩ := a
  cases outcome with
  | unknown =>
    have hself : PaymentOrchestrator.updateCharges db c.paymentId
        (fun o => { o with status := .unknown }) (fun _ => rfl) = db :=
      ht.updateCharges_eq_self hcharge
    refine ⟨_, rfl, ?_⟩
    rw [PaymentOrchestrator.finalizeUnknown, Db.books_enqueue, hself]
    exact congrArg Db.books (hsame .unknownExternalOutcome)
  | failed =>
    obtain ⟨row, hrow, hsettled⟩ := h.reservation (by simp)
    have hself : PaymentOrchestrator.updateCharges db c.paymentId
        (PaymentOrchestrator.decided .failed reference) (fun _ => rfl) = db :=
      ht.updateCharges_eq_self hcharge
    have hrun : Worker.branch db c ⟨.failed, reference⟩ =
        .ok (enqueue (PaymentRepository.updateStatus db c.paymentId .failed reference)
          (.paymentFailed c.paymentId (.provider c.reservationId))) := by
      rw [Worker.branch, PaymentOrchestrator.finalizeFailed, hself, BudgetRepository.release,
        settle_of_settled hrow hsettled]
      rfl
    exact ⟨_, hrun, (Db.books_enqueue _ _).trans (congrArg Db.books (hsame .failed))⟩
  | succeeded =>
    obtain ⟨row, hrow, hsettled⟩ := h.reservation (by simp)
    obtain ⟨id, t, htx, hkey, hposted⟩ := h.capture rfl
    obtain ⟨journalId, hjournal⟩ := h.journal rfl
    have hself : PaymentOrchestrator.updateCharges db c.paymentId
        (PaymentOrchestrator.decided .succeeded reference) (fun _ => rfl) = db :=
      ht.updateCharges_eq_self hcharge
    have hupsert := upsertCapture_of_posted htx hkey hposted
      (Amount.store_toDecimal c.amount) c.currency
    have hpost : postJournal db c.currency (.transaction id) (.capture c.paymentId)
        (transfer c.accounts.customer c.accounts.clearing c.amount.toDecimal c.currency) =
        .ok (journalId, db) :=
      postJournal_transfer_eq_ok.mpr ⟨c.amount.toDecimal_pos, .inl ⟨hjournal, rfl⟩⟩
    have hrun : Worker.branch db c ⟨.succeeded, reference⟩ =
        .ok (enqueue (PaymentRepository.updateStatus db c.paymentId .succeeded reference)
          (.paymentSucceeded c.paymentId c.amount.toDecimal c.currency)) := by
      rw [Worker.branch, PaymentOrchestrator.finalizeSucceeded, hself, BudgetRepository.consume,
        settle_of_settled hrow hsettled]
      refine Except.bind_eq_ok.mpr ⟨db, rfl, Except.bind_eq_ok.mpr ⟨(id, db), hupsert, ?_⟩⟩
      exact Except.bind_eq_ok.mpr ⟨(journalId, db), hpost, rfl⟩
    exact ⟨_, hrun, (Db.books_enqueue _ _).trans (congrArg Db.books (hsame .succeeded))⟩

/-! ### Finalizing for the first time -/

/-- What the first finalization needs: a RESERVED reservation that its budget still counts, a free
charge, and ledger accounts. -/
structure Worker.Payable (db : Db) (c : Claim) : Prop where
  reservation : ∃ row, db.budgetReservations.get? c.reservationId = some row ∧
    row.status = .reserved ∧
    ∀ b, db.budgets[row.budgetId]? = some b → row.amount.units ≤ b.reservedAmount
  accounts : c.accounts.Known db

/-- The fresh charge that the first phase files. -/
abbrev Worker.freshCharge (p : PaymentId) : ProviderOperation :=
  PaymentRepository.newOperation p .charge (.charge p)

lemma settle_of_reserved (db : Db) (status : ReservationStatus)
    (f : Budget → Amount → Except Error Budget) {id : ReservationId} {row : BudgetReservation}
    (hrow : db.budgetReservations.get? id = some row) (hstatus : row.status = .reserved)
    (hf : ∀ b, db.budgets[row.budgetId]? = some b → ∃ b', f b row.amount = .ok b') :
    ∃ budgets, BudgetRepository.settle db id status f =
      .ok { BudgetRepository.setReservationStatus db id status with budgets } := by
  have hbudgets : (BudgetRepository.setReservationStatus db id status).budgets = db.budgets := rfl
  simp only [BudgetRepository.settle, hrow, hstatus, ne_eq, not_true, if_false,
    BudgetRepository.updateBudget, hbudgets]
  cases hb : db.budgets[row.budgetId]? with
  | none => exact ⟨db.budgets, rfl⟩
  | some b =>
    obtain ⟨b', hb'⟩ := hf b hb
    simp only [hb']
    exact ⟨_, rfl⟩

/-- The capture row is there after the upsert, and POSTED. -/
lemma upsertCapture_posts (db : Db) (p : PaymentId) (amount : Amount) (currency : String) :
    ∃ id transactions t, PaymentOrchestrator.upsertCapture db p amount.toDecimal currency =
        .ok (id, { db with transactions }) ∧
      transactions.get? id = some t ∧ t.idempotencyKey = .capture p ∧ t.status = .posted := by
  simp only [PaymentOrchestrator.upsertCapture, Amount.store_toDecimal]
  set t : Transaction :=
    { paymentId := p, type := .capture, status := .posted, amount, currency,
      externalReference := none, idempotencyKey := .capture p } with ht
  cases hinsert : db.transactions.insert? t with
  | some transactions =>
    have hrows := (Table.insert?_eq_some.mp hinsert).2
    refine ⟨db.transactions.nextId, transactions, t, ?_, ?_, rfl, rfl⟩
    · rw [ht] at hinsert
      simp only [bind, Except.bind, hinsert]
      rfl
    · rw [Table.get?_of_rows_append hrows]
      simp
  | none =>
    obtain ⟨t₀, hrow⟩ := Option.isSome_iff_exists.mp (Table.row?_of_insert?_none hinsert rfl)
    obtain ⟨hmem, hkey⟩ := Table.row?_eq_some.mp hrow
    obtain ⟨id, hid⟩ := List.getElem?_of_mem hmem
    have hidOf : db.transactions.idOf? (.capture p) = some id :=
      Table.idOf?_eq_some.mpr ⟨t₀, hid, hkey⟩
    refine ⟨id, (postTransaction db id).transactions, { t₀ with status := .posted }, ?_, ?_,
      Option.some.inj hkey, rfl⟩
    · rw [ht] at hinsert
      simp only [bind, Except.bind, hinsert, hidOf]
      rfl
    · have hget : db.transactions.get? id = some t₀ := hid
      exact (Table.get?_update_self _ _ (fun t : Transaction => { t with status := .posted })
        fun _ => rfl).trans (by rw [hget]; rfl)

/-- The journal is there after it is posted. -/
lemma postJournal_posts (db : Db) {accounts : LedgerAccounts} (h : accounts.Known db)
    (amount : Amount) (currency : String) (reference : JournalReference) (key : JournalKey) :
    ∃ id ledgerJournals, postJournal db currency reference key
        (transfer accounts.customer accounts.clearing amount.toDecimal currency) =
        .ok (id, { db with ledgerJournals }) ∧
      ledgerJournals.idOf? key = some id := by
  cases hid : db.ledgerJournals.idOf? key with
  | some id =>
    exact ⟨id, db.ledgerJournals,
      postJournal_transfer_eq_ok.mpr ⟨amount.toDecimal_pos, .inl ⟨hid, rfl⟩⟩, hid⟩
  | none =>
    set j := transferJournal accounts.customer accounts.clearing amount currency reference key
      with hj
    have hadmits : db.ledgerJournals.Admits j := fun k hk r hr => by
      obtain rfl := Option.some.inj hk
      exact Table.idOf?_eq_none.mp hid r hr
    obtain ⟨journals, hinsert⟩ : ∃ journals, db.ledgerJournals.insert? j = some journals :=
      ⟨db.ledgerJournals.append j hadmits, Table.insert?_eq_some.mpr ⟨hadmits, rfl⟩⟩
    refine ⟨db.ledgerJournals.nextId, journals, postJournal_transfer_eq_ok.mpr
      ⟨amount.toDecimal_pos, .inr ⟨hid, rfl, h.1, h.2, amount, journals, by simp, hinsert, rfl⟩⟩,
      ?_⟩
    refine Table.idOf?_eq_some.mpr ⟨j, ?_, rfl⟩
    rw [Table.get?_of_rows_append (Table.insert?_eq_some.mp hinsert).2]
    simp

lemma orElse_orElse (a b : Option String) : (a <|> a <|> b) = (a <|> b) := by
  cases a <;> rfl

/-- The first finalization goes through and books its answer, and the charge now records it. -/
lemma Worker.Payable.branch {db : Db} {c : Claim} {payment : Payment}
    {operationId : OperationId} (h : Payable db c)
    (ht : TakenUp db c payment operationId (freshCharge c.paymentId)) (a : ProviderAnswer) :
    ∃ d payment' o, Worker.branch db c a = .ok d ∧ TakenUp d c payment' operationId o ∧
      payment'.status = a.outcome.paymentStatus ∧ Booked d c payment' o a ∧
      o.status.outcome? = some a.outcome ∧
      Booked d c payment' o ⟨a.outcome, o.providerReference⟩ := by
  obtain ⟨row, hrow, hreserved, hcounted⟩ := h.reservation
  have hsettled : ∀ (db' : Db) status, status ≠ .reserved →
      db'.budgetReservations = db.budgetReservations →
      ∃ row, (BudgetRepository.setReservationStatus db' c.reservationId
        status).budgetReservations.get? c.reservationId = some row ∧ row.status ≠ .reserved := by
    intro db' status hne hsame
    refine ⟨{ row with status }, ?_, hne⟩
    refine (Table.get?_update_self _ _ (fun r : BudgetReservation => { r with status })
      fun _ => rfl).trans ?_
    rw [hsame, hrow]
    rfl
  obtain ⟨outcome, reference⟩ := a
  cases outcome with
  | unknown =>
    have h₁ := (ht.updateCharges (fun o => { o with status := .unknown }) (fun _ => rfl)
      (fun _ => rfl) fun _ => rfl).updateStatus .unknownExternalOutcome reference
    refine ⟨_, _, _, rfl, h₁.congr _ rfl rfl rfl, rfl, ?_, rfl, ?_⟩
    · exact ⟨orElse_orElse _ _, rfl, fun hne => absurd rfl hne, nofun, nofun⟩
    · exact ⟨rfl, rfl, fun hne => absurd rfl hne, nofun, nofun⟩
  | failed =>
    have h₁ := ht.updateCharges (PaymentOrchestrator.decided .failed reference) (fun _ => rfl)
      (fun _ => rfl) fun _ => rfl
    set db₁ := PaymentOrchestrator.updateCharges db c.paymentId
      (PaymentOrchestrator.decided .failed reference) fun _ => rfl with hdb₁
    obtain ⟨budgets, hrelease⟩ := settle_of_reserved db₁ .released Budget.release hrow hreserved
      fun b hb => ⟨_, if_pos (hcounted b hb)⟩
    have h₂ := (h₁.congr { BudgetRepository.setReservationStatus db₁ c.reservationId
      .released with budgets } rfl rfl rfl).updateStatus .failed reference
    have hrun : Worker.branch db c ⟨.failed, reference⟩ = .ok _ :=
      Except.bind_eq_ok.mpr ⟨_, hrelease, rfl⟩
    refine ⟨_, _, _, hrun, h₂.congr _ rfl rfl rfl, rfl, ?_, rfl, ?_⟩
    · exact ⟨orElse_orElse _ _, by cases reference <;> rfl,
        fun _ => hsettled db₁ .released (by decide) rfl, nofun, nofun⟩
    · refine ⟨?_, by cases reference <;> rfl,
        fun _ => hsettled db₁ .released (by decide) rfl, nofun, nofun⟩
      cases reference <;> rfl
  | succeeded =>
    have h₁ := ht.updateCharges (PaymentOrchestrator.decided .succeeded reference) (fun _ => rfl)
      (fun _ => rfl) fun _ => rfl
    set db₁ := PaymentOrchestrator.updateCharges db c.paymentId
      (PaymentOrchestrator.decided .succeeded reference) fun _ => rfl with hdb₁
    obtain ⟨budgets, hconsume⟩ := settle_of_reserved db₁ .consumed Budget.consume hrow hreserved
      fun b hb => ⟨_, if_pos (hcounted b hb)⟩
    set db₂ : Db := { BudgetRepository.setReservationStatus db₁ c.reservationId .consumed with
      budgets } with hdb₂
    obtain ⟨id, transactions, t, hupsert, htx, hkey, hposted⟩ :=
      upsertCapture_posts db₂ c.paymentId c.amount c.currency
    obtain ⟨journalId, journals, hpost, hjournal⟩ :=
      postJournal_posts { db₂ with transactions } h.accounts c.amount c.currency
        (.transaction id) (.capture c.paymentId)
    have h₂ := (h₁.congr { db₂ with transactions, ledgerJournals := journals }
      rfl rfl rfl).updateStatus .succeeded reference
    have hrun : Worker.branch db c ⟨.succeeded, reference⟩ = .ok _ :=
      Except.bind_eq_ok.mpr ⟨db₂, hconsume, Except.bind_eq_ok.mpr ⟨_, hupsert,
        Except.bind_eq_ok.mpr ⟨_, hpost, rfl⟩⟩⟩
    have hcharge : (PaymentOrchestrator.decided .succeeded reference
        (PaymentOrchestrator.decided .succeeded reference (freshCharge c.paymentId))) =
        PaymentOrchestrator.decided .succeeded reference (freshCharge c.paymentId) := by
      cases reference <;> rfl
    refine ⟨_, _, _, hrun, h₂.congr _ rfl rfl rfl, rfl, ?_, rfl, ?_⟩
    · exact ⟨orElse_orElse _ _, hcharge, fun _ => hsettled db₁ .consumed (by decide) rfl,
        fun _ => ⟨id, t, htx, hkey, hposted⟩, fun _ => ⟨journalId, hjournal⟩⟩
    · refine ⟨?_, ?_, fun _ => hsettled db₁ .consumed (by decide) rfl,
        fun _ => ⟨id, t, htx, hkey, hposted⟩, fun _ => ⟨journalId, hjournal⟩⟩
      · cases reference <;> rfl
      · cases reference <;> rfl

/-! ### Reading past the outbox -/

lemma Worker.TakenUp.of_books {db db' : Db} {c : Claim} {payment : Payment}
    {operationId : OperationId} {o : ProviderOperation}
    (h : TakenUp db c payment operationId o) (hbooks : db'.books = db.books) :
    TakenUp db' c payment operationId o :=
  h.congr _ (congrArg Db.payments hbooks :) (congrArg Db.paymentRequests hbooks :)
    (congrArg Db.providerOperations hbooks :)

lemma Worker.Booked.of_books {db db' : Db} {c : Claim} {payment : Payment}
    {o : ProviderOperation} {a : ProviderAnswer} (h : Booked db c payment o a)
    (hbooks : db'.books = db.books) : Booked db' c payment o a := by
  have hreservations : db'.budgetReservations = db.budgetReservations :=
    (congrArg Db.budgetReservations hbooks :)
  have htransactions : db'.transactions = db.transactions := (congrArg Db.transactions hbooks :)
  have hjournals : db'.ledgerJournals = db.ledgerJournals := (congrArg Db.ledgerJournals hbooks :)
  exact ⟨h.reference, h.charge, by rw [hreservations]; exact h.reservation,
    by rw [htransactions]; exact h.capture, by rw [hjournals]; exact h.journal⟩

/-- A new status hides nothing that is booked. -/
lemma Worker.Booked.withStatus {db : Db} {c : Claim} {payment : Payment} {o : ProviderOperation}
    {a : ProviderAnswer} (h : Booked db c payment o a) (status : PaymentStatus) :
    Booked (PaymentRepository.updateStatus db c.paymentId status none) c
      (PaymentRepository.withStatus status none payment) o a :=
  ⟨h.reference, h.charge, h.reservation, h.capture, h.journal⟩

lemma Worker.branch_books {db db' : Db} (hbooks : db'.books = db.books) (c : Claim)
    (a : ProviderAnswer) : (branch db' c a).map Db.books = (branch db c a).map Db.books := by
  have hsame : ∀ db, (branch db.books c a).map Db.books = (branch db c a).map Db.books := by
    intro db
    simp only [branch]
    cases a.outcome with
    | unknown => rfl
    | failed => exact PaymentOrchestrator.finalizeFailed_books db _ _ _
    | succeeded => exact PaymentOrchestrator.finalizeSucceeded_books db _ _ _ _ _ _
  rw [← hsame db', hbooks, hsame db]

/-- A decided payment answers what it is asked again. -/
lemma Worker.TakenUp.finalize_decided {db : Db} {c : Claim} {payment : Payment}
    {operationId : OperationId} {o : ProviderOperation}
    (h : TakenUp db c payment operationId o)
    (hcurrency : normCurrency c.currency = upper c.currency) {a : ProviderAnswer}
    (hstatus : payment.status = a.outcome.paymentStatus) :
    Worker.finalize db c a = .ok (a.outcome.paymentStatus, db) := by
  have hbinds : ¬(payment.amount.toDecimal.units ≠ c.amount.toDecimal.units ∨
      normCurrency payment.currency ≠ upper c.currency) := by
    simp [h.amount, h.currency, hcurrency]
  simp only [Worker.finalize, PaymentOrchestrator.finalize, h.row, h.request, ne_eq, not_true,
    if_false, if_neg hbinds, hstatus]
  cases a.outcome <;> simp [ProviderOutcome.paymentStatus]

end AgentPay
