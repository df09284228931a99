import AgentPay.Charging

/-!
# Provider events take effect once

Any sequence of `resolve` calls on one charge that waits for its outcome. Events are told apart by
their id, but the effect is once per charge: the status gate turns every later event away.
-/

namespace AgentPay

open Support

/-! ### Calls -/

/-- One call of `resolve` on an operation. -/
structure ResolveCall where
  eventId : EventId
  outcome : String
  providerReference : Option String
  accounts : LedgerAccounts
  deriving DecidableEq, Repr

namespace ResolveCall

def run (id : OperationId) (db : Db) (call : ResolveCall) : Except Error (Resolution × Db) :=
  ProviderEventResolver.resolve db call.eventId id call.outcome call.providerReference call.accounts

/-- What is committed after a call. -/
def step (id : OperationId) (db : Db) (call : ResolveCall) : Db :=
  db.commit ((call.run id db).map (·.2))

/-- The event is there, signed and not processed, its outcome is definitive, and a success names
ledger accounts that exist. -/
structure Valid (db : Db) (call : ResolveCall) : Prop where
  event : ∃ event, db.providerEvents.get? call.eventId = some event ∧
    event.signatureValid = true ∧ event.processingStatus ≠ .processed
  outcome : call.outcome = "SUCCEEDED" ∨ call.outcome = "FAILED"
  accounts : call.outcome = "SUCCEEDED" → call.accounts.Known db

end ResolveCall

/-- The database without its provider events. -/
def Db.finances (db : Db) : Db := { db with providerEvents := .empty }

/-- The call changes nothing but its event, and says so or raises. -/
structure Ineffective (id : OperationId) (db : Db) (call : ResolveCall) : Prop where
  finances : (call.step id db).finances = db.finances
  answer : ∀ resolution db', call.run id db = .ok (resolution, db') →
    resolution = .duplicate ∨ resolution = .ignored

/-! ### A charge and its rows -/

/-- A CHARGE operation, its payment and request, and the reservation that the request links. -/
structure Charge where
  operation : ProviderOperation
  payment : Payment
  request : PaymentRequest
  reservationId : ReservationId
  reservation : BudgetReservation
  deriving DecidableEq, Repr

def Db.transactionsOf (db : Db) (p : PaymentId) : List Transaction :=
  db.transactions.rows.filter fun t => t.paymentId = p

def Db.journalsOf (db : Db) (p : PaymentId) : List LedgerJournal :=
  db.ledgerJournals.rows.filter fun j => j.idempotencyKey.paymentId = p

namespace Charge

/-- The rows of the charge are those of the database. -/
structure InRows (c : Charge) (db : Db) (id : OperationId) : Prop where
  operation : db.providerOperations.get? id = some c.operation
  type : c.operation.operationType = .charge
  payment : db.payments.get? c.operation.paymentId = some c.payment
  request : db.paymentRequests.get? c.payment.paymentRequestId = some c.request
  linked : c.request.budgetReservationId = some c.reservationId
  reservation : db.budgetReservations.get? c.reservationId = some c.reservation

/-- The rows of the charge with an outcome. -/
def withOutcome (c : Charge) (status : OperationStatus) (paymentStatus : PaymentStatus)
    (reservationStatus : ReservationStatus) (reference : Option String) : Charge :=
  { c with
    operation := PaymentOrchestrator.decided status reference c.operation
    payment := PaymentRepository.withStatus paymentStatus reference c.payment
    reservation := { c.reservation with status := reservationStatus } }

/-- A charge that waits for its outcome: nothing is booked for its payment, and its reservation is
RESERVED and counted by its budget. -/
structure Awaiting (c : Charge) (db : Db) (id : OperationId) : Prop extends c.InRows db id where
  status : c.payment.status = .processing ∨ c.payment.status = .unknownExternalOutcome
  reserved : c.reservation.status = .reserved
  counted : ∀ b, db.budgets[c.reservation.budgetId]? = some b →
    c.reservation.amount.units ≤ b.reservedAmount
  transactions : db.transactionsOf c.operation.paymentId = []
  journals : db.journalsOf c.operation.paymentId = []
  keys : ∀ t ∈ db.transactions.rows, t.Filed

/-- The success of the charge: the reservation is CONSUMED, and one capture and one balanced
journal of the payment's amount are posted. -/
structure Captured (c : Charge) (db : Db) (id : OperationId) (reference : Option String) :
    Prop where
  rows : (c.withOutcome .succeeded .succeeded .consumed reference).InRows db id
  transactions : ∃ t, db.transactionsOf c.operation.paymentId = [t] ∧ t.type = .capture ∧
    t.status = .posted ∧ t.amount = c.payment.amount
  journals : ∃ j, db.journalsOf c.operation.paymentId = [j] ∧
    j.total .debit = c.payment.amount.units ∧ j.total .credit = c.payment.amount.units

/-- The failure of the charge: the reservation is RELEASED, and nothing is booked. -/
structure Rejected (c : Charge) (db : Db) (id : OperationId) (reference : Option String) :
    Prop where
  rows : (c.withOutcome .failed .failed .released reference).InRows db id
  transactions : db.transactionsOf c.operation.paymentId = []
  journals : db.journalsOf c.operation.paymentId = []

lemma InRows.operationRow {c : Charge} {db : Db} {id : OperationId} (h : c.InRows db id) :
    ProviderEventResolver.operationRow db id = some (c.operation, c.payment, c.request) := by
  simp [ProviderEventResolver.operationRow, h.operation, h.payment, h.request]

/-- The rows of a charge after its operation, its reservation and its payment are written. -/
lemma InRows.withOutcome {c : Charge} {db : Db} {id : OperationId} (h : c.InRows db id) (db' : Db)
    {status : OperationStatus} {paymentStatus : PaymentStatus}
    {reservationStatus : ReservationStatus} {reference : Option String}
    (hoperations : db'.providerOperations = (ProviderEventResolver.decideOperation db id status
      reference).providerOperations)
    (hreservations : db'.budgetReservations =
      (BudgetRepository.setReservationStatus db c.reservationId
        reservationStatus).budgetReservations)
    (hrequests : db'.paymentRequests = db.paymentRequests)
    (hpayments : db'.payments = (PaymentRepository.updateStatus db c.operation.paymentId
      paymentStatus reference).payments) :
    (c.withOutcome status paymentStatus reservationStatus reference).InRows db' id := by
  refine ⟨?_, h.type, ?_, by rw [hrequests]; exact h.request, h.linked, ?_⟩
  · rw [hoperations]
    exact (Table.get?_update_self db.providerOperations id
      (PaymentOrchestrator.decided status reference) fun _ => rfl).trans (by rw [h.operation]; rfl)
  · rw [hpayments]
    exact (get?_updateStatus db c.operation.paymentId paymentStatus reference).trans
      (by rw [h.payment]; rfl)
  · rw [hreservations]
    exact (Table.get?_update_self db.budgetReservations c.reservationId
      (fun r : BudgetReservation => { r with status := reservationStatus }) fun _ => rfl).trans
      (by rw [h.reservation]; rfl)

end Charge

/-! ### Free keys -/

/-- Nothing of a payment is found under its keys. -/
lemma idOf?_transaction_eq_none {db : Db} (hkeys : ∀ t ∈ db.transactions.rows, t.Filed)
    {p : PaymentId} (h : db.transactionsOf p = []) {k : TransactionKey} (hk : k.paymentId = p) :
    db.transactions.idOf? k = none := by
  rw [Table.idOf?_eq_none]
  intro t ht hkey
  have hfiled := (hkeys t ht).payment
  rw [Option.some.inj hkey, hk] at hfiled
  simpa using List.filter_eq_nil_iff.mp h t ht (by simpa using hfiled)

lemma idOf?_journal_eq_none {db : Db} {p : PaymentId} (h : db.journalsOf p = []) {k : JournalKey}
    (hk : k.paymentId = p) : db.ledgerJournals.idOf? k = none := by
  rw [Table.idOf?_eq_none]
  intro j hj hkey
  simpa using List.filter_eq_nil_iff.mp h j hj (by simp [Option.some.inj hkey, hk])

lemma transactionsOf_append {db db' : Db} {p : PaymentId} {t : Transaction}
    (hrows : db'.transactions.rows = db.transactions.rows ++ [t]) (h : db.transactionsOf p = [])
    (ht : t.paymentId = p) : db'.transactionsOf p = [t] := by
  rw [Db.transactionsOf, hrows, List.filter_append, ← Db.transactionsOf, h]
  simp [ht]

lemma journalsOf_append {db db' : Db} {p : PaymentId} {j : LedgerJournal}
    (hrows : db'.ledgerJournals.rows = db.ledgerJournals.rows ++ [j]) (h : db.journalsOf p = [])
    (hj : j.idempotencyKey.paymentId = p) : db'.journalsOf p = [j] := by
  rw [Db.journalsOf, hrows, List.filter_append, ← Db.journalsOf, h]
  simp [hj]

/-- A journal under a free key. -/
lemma postJournal_appends (db : Db) {accounts : LedgerAccounts} (h : accounts.Known db)
    (amount : Amount) (currency : String) (reference : JournalReference) (key : JournalKey)
    (hid : db.ledgerJournals.idOf? key = none) :
    ∃ ledgerJournals, postJournal db currency reference key
        (transfer accounts.customer accounts.clearing amount.toDecimal currency) =
        .ok (db.ledgerJournals.nextId, { db with ledgerJournals }) ∧
      ledgerJournals.rows = db.ledgerJournals.rows ++
        [transferJournal accounts.customer accounts.clearing amount currency reference key] := by
  obtain ⟨journals, hinsert, hrows⟩ := Table.insert?_of_idOf?_none
    (t := db.ledgerJournals) (k := key) (r := transferJournal accounts.customer accounts.clearing
      amount currency reference key) rfl hid
  exact ⟨journals, postJournal_transfer_eq_ok.mpr ⟨amount.toDecimal_pos,
    .inr ⟨hid, rfl, h.1, h.2, amount, journals, by simp, hinsert, rfl⟩⟩, hrows⟩

/-- A capture row under a free key. -/
lemma ProviderEventResolver.createTransaction_appends (db : Db) {p : PaymentId}
    (hid : db.transactions.idOf? (.eventCapture p) = none) (amount : Amount) (currency : String)
    (reference : Option String) :
    ∃ transactions, createTransaction db p amount.toDecimal currency reference =
        .ok (db.transactions.nextId, { db with transactions }) ∧
      transactions.rows = db.transactions.rows ++
        [{ paymentId := p, type := .capture, status := .posted, amount, currency,
           externalReference := reference, idempotencyKey := .eventCapture p }] := by
  obtain ⟨transactions, hinsert, hrows⟩ := Table.insert?_of_idOf?_none
    (t := db.transactions) (k := .eventCapture p)
    (r := ({ paymentId := p, type := .capture, status := .posted, amount, currency,
             externalReference := reference, idempotencyKey := .eventCapture p } : Transaction))
    rfl hid
  refine ⟨transactions, ?_, hrows⟩
  simp only [createTransaction, hid, Amount.store_toDecimal, bind, Except.bind, hinsert]
  rfl

/-! ### A valid event -/

namespace Charge.Awaiting

variable {c : Charge} {db : Db} {id : OperationId} (h : c.Awaiting db id)

include h

/-- A SUCCEEDED event that can be posted is posted. -/
lemma resolveSucceeded {accounts : LedgerAccounts} (hknown : accounts.Known db)
    (reference : Option String) :
    ∃ db', ProviderEventResolver.resolveSucceeded db id c.operation c.payment c.request accounts
      reference = .ok db' ∧ c.Captured db' id reference := by
  set p := c.operation.paymentId with hp
  set currency := normCurrency c.payment.currency with hcurrency
  set db₁ := ProviderEventResolver.decideOperation db id .succeeded reference with hdb₁
  obtain ⟨budgets, hconsume⟩ := settle_of_reserved db₁ .consumed Budget.consume h.reservation
    h.reserved fun b hb => ⟨_, if_pos (h.counted b hb)⟩
  set db₂ : Db := { BudgetRepository.setReservationStatus db₁ c.reservationId .consumed with
    budgets } with hdb₂
  have htransactions : db₂.transactionsOf p = [] := h.transactions
  have hjournals : db₂.journalsOf p = [] := h.journals
  have hid : db₂.transactions.idOf? (.eventCapture p) = none :=
    idOf?_transaction_eq_none h.keys h.transactions rfl
  obtain ⟨transactions, hcreate, hrows⟩ :=
    ProviderEventResolver.createTransaction_appends db₂ hid c.payment.amount currency reference
  obtain ⟨journals, hpost, hjrows⟩ :=
    postJournal_appends { db₂ with transactions } hknown c.payment.amount currency (.payment p)
      (.capture p) (idOf?_journal_eq_none h.journals rfl)
  set t : Transaction :=
    { paymentId := p, type := .capture, status := .posted, amount := c.payment.amount, currency,
      externalReference := reference, idempotencyKey := .eventCapture p } with ht
  have hget : transactions.get? db₂.transactions.nextId = some t := by
    rw [Table.get?_of_rows_append hrows]
    simp
  have hposted : postTransaction { db₂ with transactions, ledgerJournals := journals }
      db₂.transactions.nextId = { db₂ with transactions, ledgerJournals := journals } :=
    congrArg (fun transactions => ({ db₂ with transactions, ledgerJournals := journals } : Db))
      (Table.update_eq_self hget _ rfl)
  have hsettle : ProviderEventResolver.settleCharge db₁ p c.request.budgetReservationId
      c.payment.amount.toDecimal currency accounts reference =
      .ok { db₂ with transactions, ledgerJournals := journals } := by
    rw [h.linked]
    exact Except.bind_eq_ok.mpr ⟨db₂, hconsume, Except.bind_eq_ok.mpr ⟨_, hcreate,
      Except.bind_eq_ok.mpr ⟨_, hpost, congrArg Except.ok hposted⟩⟩⟩
  refine ⟨PaymentRepository.updateStatus { db₂ with transactions, ledgerJournals := journals } p
    .succeeded reference, ?_, h.toInRows.withOutcome _ rfl rfl rfl rfl, ?_, ?_⟩
  · simp only [ProviderEventResolver.resolveSucceeded, h.type, if_true]
    exact Except.bind_eq_ok.mpr ⟨_, hsettle, rfl⟩
  · exact ⟨t, transactionsOf_append hrows htransactions rfl, rfl, rfl, rfl⟩
  · exact ⟨_, journalsOf_append hjrows hjournals rfl, total_transferJournal ..,
      total_transferJournal ..⟩

/-- A FAILED event releases. -/
lemma resolveFailed (reference : Option String) :
    ∃ db', ProviderEventResolver.resolveFailed db id c.operation c.request reference = .ok db' ∧
      c.Rejected db' id reference := by
  set db₁ := ProviderEventResolver.decideOperation db id .failed reference with hdb₁
  obtain ⟨budgets, hrelease⟩ := settle_of_reserved db₁ .released Budget.release h.reservation
    h.reserved fun b hb => ⟨_, if_pos (h.counted b hb)⟩
  refine ⟨_, ?_, h.toInRows.withOutcome (PaymentRepository.updateStatus
    { BudgetRepository.setReservationStatus db₁ c.reservationId .released with budgets }
    c.operation.paymentId .failed reference) rfl rfl rfl rfl, h.transactions, h.journals⟩
  simp only [ProviderEventResolver.resolveFailed, h.type, h.linked]
  exact Except.bind_eq_ok.mpr ⟨_, hrelease, rfl⟩

lemma resolvable : c.payment.status.Resolvable := by
  rcases h.status with hs | hs
  · exact .inr (.inl hs)
  · exact .inl hs

/-- A valid event decides the charge. -/
lemma run_of_valid {call : ResolveCall} (hcall : call.Valid db) :
    ∃ db', call.run id db = .ok (.resolved, db') ∧
      (call.outcome = "SUCCEEDED" ∧ c.Captured db' id call.providerReference ∨
        call.outcome = "FAILED" ∧ c.Rejected db' id call.providerReference) := by
  obtain ⟨event, hevent, hsigned, hfresh⟩ := hcall.event
  have hresolvable := h.resolvable
  simp only [ResolveCall.run, ProviderEventResolver.resolve, hevent, hsigned, Bool.true_eq_false,
    if_false, if_neg hfresh, h.toInRows.operationRow, hresolvable, not_true]
  rcases hcall.outcome with houtcome | houtcome
  · obtain ⟨db', hrun, hcaptured⟩ := h.resolveSucceeded (hcall.accounts houtcome)
      call.providerReference
    refine ⟨markProcessed db' call.eventId, ?_, .inl ⟨houtcome, ?_⟩⟩
    · rw [if_pos houtcome]
      exact Except.bind_eq_ok.mpr ⟨db', hrun, rfl⟩
    · exact ⟨⟨hcaptured.rows.1, hcaptured.rows.2, hcaptured.rows.3, hcaptured.rows.4,
        hcaptured.rows.5, hcaptured.rows.6⟩, hcaptured.transactions, hcaptured.journals⟩
  · obtain ⟨db', hrun, hrejected⟩ := h.resolveFailed call.providerReference
    refine ⟨markProcessed db' call.eventId, ?_, .inr ⟨houtcome, ?_⟩⟩
    · rw [if_neg (by simp [houtcome]), if_pos houtcome]
      exact Except.bind_eq_ok.mpr ⟨db', hrun, rfl⟩
    · exact ⟨⟨hrejected.rows.1, hrejected.rows.2, hrejected.rows.3, hrejected.rows.4,
        hrejected.rows.5, hrejected.rows.6⟩, hrejected.transactions, hrejected.journals⟩

/-- A success that was posted had its accounts. -/
lemma known_of_resolveSucceeded {accounts : LedgerAccounts} {reference : Option String} {db' : Db}
    (hrun : ProviderEventResolver.resolveSucceeded db id c.operation c.payment c.request accounts
      reference = .ok db') : accounts.Known db := by
  simp only [ProviderEventResolver.resolveSucceeded, h.type, if_true] at hrun
  obtain ⟨db₁, hsettle, -⟩ := Except.bind_eq_ok.mp hrun
  rw [h.linked] at hsettle
  obtain ⟨db₂, hconsume, hsettle⟩ := Except.bind_eq_ok.mp hsettle
  obtain ⟨⟨t, db₃⟩, hcreate, hsettle⟩ := Except.bind_eq_ok.mp hsettle
  obtain ⟨⟨j, db₄⟩, hpost, -⟩ := Except.bind_eq_ok.mp hsettle
  obtain ⟨budgets, hconsume'⟩ := settle_of_reserved
    (ProviderEventResolver.decideOperation db id .succeeded reference) .consumed Budget.consume
    h.reservation h.reserved fun b hb => ⟨_, if_pos (h.counted b hb)⟩
  obtain rfl := Except.ok.inj (hconsume'.symm.trans hconsume)
  obtain ⟨transactions, hcreate', -⟩ := ProviderEventResolver.createTransaction_appends
    { BudgetRepository.setReservationStatus (ProviderEventResolver.decideOperation db id
      .succeeded reference) c.reservationId .consumed with budgets }
    (idOf?_transaction_eq_none h.keys h.transactions rfl) c.payment.amount
    (normCurrency c.payment.currency) reference
  obtain ⟨-, rfl⟩ := Prod.mk.inj (Except.ok.inj (hcreate'.symm.trans hcreate))
  rcases (postJournal_transfer_eq_ok.mp hpost).2 with ⟨hid, -⟩ | ⟨-, -, hcustomer, hclearing, -⟩
  · have hfree : db.ledgerJournals.idOf? (.capture c.operation.paymentId) = none :=
      idOf?_journal_eq_none h.journals rfl
    exact absurd (hfree.symm.trans hid) (by simp)
  · exact ⟨hcustomer, hclearing⟩

/-- Any other event leaves everything as it was. -/
lemma step_of_not_valid {call : ResolveCall} (hcall : ¬ call.Valid db) : call.step id db = db := by
  rw [ResolveCall.step]
  cases hrun : call.run id db with
  | error e => rfl
  | ok answer =>
    obtain ⟨resolution, db'⟩ := answer
    obtain ⟨event, hevent, hsigned, ⟨-, -, rfl⟩ | ⟨hfresh, o, payment, request, hrow, hcase⟩⟩ :=
      ProviderEventResolver.resolve_eq_ok hrun
    · rfl
    obtain ⟨rfl, rfl, rfl⟩ : c.operation = o ∧ c.payment = payment ∧ c.request = request := by
      simpa [h.toInRows.operationRow] using hrow
    refine absurd ?_ hcall
    rcases hcase with ⟨hnot, -, -⟩ | ⟨-, -, db₁, -, ⟨houtcome, hdone⟩ | ⟨houtcome, -⟩⟩
    · exact absurd h.resolvable hnot
    · exact ⟨⟨event, hevent, hsigned, hfresh⟩, .inl houtcome,
        fun _ => h.known_of_resolveSucceeded hdone⟩
    · exact ⟨⟨event, hevent, hsigned, hfresh⟩, .inr houtcome,
        fun hsucceeded => absurd (houtcome.symm.trans hsucceeded) (by decide)⟩

end Charge.Awaiting

/-! ### After the decision -/

/-- A charge whose payment no event may decide. -/
structure Charge.Closed (c : Charge) (db : Db) (id : OperationId) : Prop extends
    c.InRows db id where
  status : ¬ c.payment.status.Resolvable

namespace Charge.Closed

variable {c : Charge} {db : Db} {id : OperationId} (h : c.Closed db id)

include h

lemma congr {db' : Db} (hdb : db'.finances = db.finances) : c.Closed db' id := by
  have hoperations : db'.providerOperations = db.providerOperations :=
    (congrArg Db.providerOperations hdb :)
  have hpayments : db'.payments = db.payments := (congrArg Db.payments hdb :)
  have hrequests : db'.paymentRequests = db.paymentRequests := (congrArg Db.paymentRequests hdb :)
  have hreservations : db'.budgetReservations = db.budgetReservations :=
    (congrArg Db.budgetReservations hdb :)
  exact ⟨⟨by rw [hoperations]; exact h.operation, h.type, by rw [hpayments]; exact h.payment,
    by rw [hrequests]; exact h.request, h.linked, by rw [hreservations]; exact h.reservation⟩,
    h.status⟩

lemma ineffective (call : ResolveCall) : Ineffective id db call := by
  have hanswer : ∀ resolution db', call.run id db = .ok (resolution, db') →
      (resolution = .duplicate ∨ resolution = .ignored) ∧ db'.finances = db.finances := by
    intro resolution db' hrun
    obtain ⟨event, -, -, ⟨-, hduplicate, rfl⟩ | ⟨-, o, payment, request, hrow, hcase⟩⟩ :=
      ProviderEventResolver.resolve_eq_ok hrun
    · exact ⟨.inl hduplicate, rfl⟩
    obtain ⟨rfl, rfl, rfl⟩ : c.operation = o ∧ c.payment = payment ∧ c.request = request := by
      simpa [h.toInRows.operationRow] using hrow
    rcases hcase with ⟨-, hignored, rfl⟩ | ⟨hresolvable, -⟩
    · exact ⟨.inr hignored, rfl⟩
    · exact absurd hresolvable h.status
  refine ⟨?_, fun resolution db' hrun => (hanswer resolution db' hrun).1⟩
  rw [ResolveCall.step]
  cases hrun : call.run id db with
  | error e => rfl
  | ok answer => exact (hanswer answer.1 answer.2 hrun).2

lemma along (calls : List ResolveCall) :
    Machine.Along (ResolveCall.step id) (Ineffective id) db calls := by
  induction calls generalizing db with
  | nil => trivial
  | cons call calls ih => exact ⟨h.ineffective call, ih (h.congr (h.ineffective call).finances)⟩

end Charge.Closed

/-! ### Every sequence -/

/-- The first valid call decides the charge; the calls before it change nothing, and those after it
nothing but their events. Without a valid call nothing changes. -/
def DecidesOnce (c : Charge) (db : Db) (id : OperationId) (calls : List ResolveCall) : Prop :=
  (∀ call ∈ calls, ¬ call.Valid db) ∧ Machine.run (ResolveCall.step id) db calls = db ∨
    ∃ before call after db', calls = before ++ call :: after ∧
      (∀ call' ∈ before, ¬ call'.Valid db) ∧ Machine.run (ResolveCall.step id) db before = db ∧
      call.Valid db ∧ call.run id db = .ok (.resolved, db') ∧
      (call.outcome = "SUCCEEDED" ∧ c.Captured db' id call.providerReference ∨
        call.outcome = "FAILED" ∧ c.Rejected db' id call.providerReference) ∧
      Machine.Along (ResolveCall.step id) (Ineffective id) db' after

/-- Every sequence of calls on a charge that waits for its outcome decides it once. -/
theorem run_resolve {c : Charge} {db : Db} {id : OperationId} (h : c.Awaiting db id)
    (calls : List ResolveCall) : DecidesOnce c db id calls := by
  induction calls with
  | nil => exact .inl ⟨by simp, rfl⟩
  | cons call calls ih =>
    by_cases hcall : call.Valid db
    · obtain ⟨db', hrun, hdecided⟩ := h.run_of_valid hcall
      refine .inr ⟨[], call, calls, db', rfl, by simp, rfl, hcall, hrun, hdecided, ?_⟩
      rcases hdecided with ⟨-, hcaptured⟩ | ⟨-, hrejected⟩
      · exact Charge.Closed.along
          ⟨hcaptured.rows, show ¬ PaymentStatus.succeeded.Resolvable by decide⟩ calls
      · exact Charge.Closed.along
          ⟨hrejected.rows, show ¬ PaymentStatus.failed.Resolvable by decide⟩ calls
    · have hstep := h.step_of_not_valid hcall
      rcases ih with ⟨hnone, hrun⟩ | ⟨before, first, after, db', rfl, hbefore, hrun, hrest⟩
      · refine .inl ⟨by simpa [hcall] using hnone, ?_⟩
        rw [Machine.run_cons, hstep, hrun]
      · refine .inr ⟨call :: before, first, after, db', rfl, by simpa [hcall] using hbefore, ?_,
          hrest⟩
        rw [Machine.run_cons, hstep, hrun]

/-- The seeded payment after its first phase, with two signed events. -/
def Db.charged : Db :=
  let db := (Machine.run (State.step .bare) (.start (.seeded .processing (some .reserved)))
    [.mark 0 ⟨0, 1⟩]).db
  let db := (ProviderEventRepository.record db "mock" "first" "payment.failed" true).2
  (ProviderEventRepository.record db "mock" "second" "payment.succeeded" true).2

/-- An outcome that is not supported, a failure, its repetition, and a success that comes too
late. -/
theorem run_resolve_contradictory :
    ∃ c, c.payment.status = .processing ∧ DecidesOnce c Db.charged 0
      [⟨0, "UNKNOWN", none, ⟨0, 1⟩⟩, ⟨0, "FAILED", some "ref", ⟨0, 1⟩⟩,
        ⟨0, "FAILED", some "ref", ⟨0, 1⟩⟩, ⟨1, "SUCCEEDED", some "ref", ⟨0, 1⟩⟩] := by
  refine ⟨⟨⟨0, .charge, .charge 0, none, .pending, false⟩,
    ⟨0, .seeded, "USD", .processing, none, some 0⟩,
    { accountId := "account", agentId := "agent", merchantId := none,
      amount := .seeded, currency := "USD", idempotencyKey := "key",
      requestFingerprint := none, policyVersionId := none, budgetId := some 0,
      budgetReservationId := some 0, authorizationEvidenceId := none,
      authorizationContextHash := none },
    0, ⟨0, 0, .seeded, "USD", .reserved⟩⟩, rfl, run_resolve ⟨⟨by decide +kernel, rfl,
      by decide +kernel, by decide +kernel, rfl, by decide +kernel⟩, .inl rfl, rfl, ?_,
      by decide +kernel, by decide +kernel, ?_⟩ _⟩
  · intro b hb
    have hbudgets : Db.charged.budgets =
        [⟨"account", none, "USD", 1000000, 0, 250000, true, none, none⟩] := by
      decide +kernel
    rw [hbudgets] at hb
    obtain rfl := Option.some.inj hb
    decide
  · have hrows : Db.charged.transactions.rows = [] := by decide +kernel
    simp [hrows]

end AgentPay
