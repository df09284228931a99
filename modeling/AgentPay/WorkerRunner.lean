import AgentPay.Support.Batch
import AgentPay.WebhookOnce
import AgentPay.Execution

/-!
# The worker's batch

`worker_runner.run_once` claims the oldest executable payments, lets their locks go and takes them
up one after the other. Nothing catches the error of one payment, so the loop ends at the first
payment whose accounts are missing or whose `process_one` raises, and the rest of the batch waits
for a later run, which begins with the same payment.
-/

namespace AgentPay

open Support

/-! ### One payment -/

/-- What the provider does with a charge. It answers the same call the same way every time. -/
abbrev Provider := ProviderCall → Except Error ProviderAnswer

namespace Worker

/-- `_payment_currency` -/
def paymentCurrency (db : Db) (p : PaymentId) : Except Error String :=
  match db.payments.get? p with
  | none         => .error (.valueError "payment not found")
  | some payment => .ok (normCurrency payment.currency)

/-- The query of `run_once`. -/
def joinedAccounts (db : Db) (p : PaymentId) (currency : String) : Option LedgerAccounts :=
  accountsIn db p fun _ => currency

/-- What `run_once` raises when the join finds no row, or no clearing account. -/
def missingAccounts : Error :=
  .runtimeError "customer wallet ledger account or provider clearing account is missing"

/-- The accounts `run_once` resolves for a payment. -/
def accountsFor (db : Db) (p : PaymentId) : Except Error LedgerAccounts := do
  match joinedAccounts db p (← paymentCurrency db p) with
  | none          => throw missingAccounts
  | some accounts => return accounts

/-- The answer `process_one` finalizes with: the durable one, or the provider's. -/
def answerFor (provider : Provider) (db : Db) (claim : Claim) : Except Error ProviderAnswer :=
  match durable db claim.paymentId with
  | some answer => .ok answer
  | none        => provider claim.charge

/-- `process_one` with what it commits on the way: an exception undoes the transaction it is raised
in, not the one that took the payment up. -/
def processCommitted (provider : Provider) (db : Db) (p : PaymentId) (accounts : LedgerAccounts) :
    Except Error PaymentStatus × Db :=
  match mark db p accounts with
  | .error e           => (.error e, db)
  | .ok (claim, taken) =>
    match answerFor provider taken claim with
    | .error e   => (.error e, taken)
    | .ok answer =>
      match finalize taken claim answer with
      | .error e          => (.error e, taken)
      | .ok (status, db') => (.ok status, db')

/-- The body of the loop in `run_once`. -/
def serve (provider : Provider) (db : Db) (p : PaymentId) : Except Error PaymentStatus × Db :=
  match accountsFor db p with
  | .error e     => (.error e, db)
  | .ok accounts => processCommitted provider db p accounts

end Worker

/-- `run_once`, while `locked` are the payments that other transactions hold. -/
def runOnce (provider : Provider) (locked : List PaymentId) (limit : ℕ) (db : Db) :
    Except Error ℕ × Db :=
  batch (Worker.serve provider) db (Worker.pendingForExecution db locked limit)

namespace Worker

variable {provider : Provider} {db db' db'' : Db} {p q : PaymentId} {accounts : LedgerAccounts}
  {claim : Claim}

/-! ### What one payment touches -/

/-- What the loop leaves alone: the terms of the payments, and the tables the accounts are looked
up in. -/
structure Keeps (db db' : Db) : Prop where
  terms : ∀ q, (db'.payments.get? q).map Payment.terms = (db.payments.get? q).map Payment.terms
  count : db'.payments.nextId = db.payments.nextId
  requests : db'.paymentRequests = db.paymentRequests
  wallets : db'.wallets = db.wallets
  ledgerAccounts : db'.ledgerAccounts = db.ledgerAccounts
  providerAccounts : db'.paymentProviderAccounts = db.paymentProviderAccounts

/-- What serving `p` leaves alone: every other payment row as well. -/
structure Serves (p : PaymentId) (db db' : Db) : Prop extends Keeps db db' where
  others : ∀ q, q ≠ p → db'.payments.get? q = db.payments.get? q

lemma Keeps.refl (db : Db) : Keeps db db := ⟨fun _ => rfl, rfl, rfl, rfl, rfl, rfl⟩

lemma Keeps.trans (h : Keeps db db') (h' : Keeps db' db'') : Keeps db db'' where
  terms q := (h'.terms q).trans (h.terms q)
  count := h'.count.trans h.count
  requests := h'.requests.trans h.requests
  wallets := h'.wallets.trans h.wallets
  ledgerAccounts := h'.ledgerAccounts.trans h.ledgerAccounts
  providerAccounts := h'.providerAccounts.trans h.providerAccounts

namespace Serves

lemma refl (p : PaymentId) (db : Db) : Serves p db db := ⟨.refl db, fun _ _ => rfl⟩

lemma trans (h : Serves p db db') (h' : Serves p db' db'') : Serves p db db'' :=
  ⟨h.toKeeps.trans h'.toKeeps, fun q hq => (h'.others q hq).trans (h.others q hq)⟩

/-- What is written on the books alone. -/
lemma of_unbooked (h : db'.unbooked = db.unbooked) : Serves p db db' where
  terms := (Executes.of_unbooked h).payments
  count := (congrArg (fun db : Db => db.payments.nextId) h :)
  requests := (congrArg Db.paymentRequests h :)
  wallets := (congrArg Db.wallets h :)
  ledgerAccounts := (congrArg Db.ledgerAccounts h :)
  providerAccounts := (congrArg Db.paymentProviderAccounts h :)
  others q _ := (congrArg (fun db : Db => db.payments.get? q) h :)

lemma updatePayment (db : Db) (p : PaymentId) (f : Payment → Payment) (hf : ∀ r, (f r).key = r.key)
    (hterms : ∀ r, (f r).terms = r.terms) :
    Serves p db { db with payments := db.payments.update p f hf } where
  terms := (Executes.updatePayment db p f hf hterms).payments
  count := Table.nextId_update db.payments p f hf
  requests := rfl
  wallets := rfl
  ledgerAccounts := rfl
  providerAccounts := rfl
  others _ hq := Table.get?_update_ne db.payments (Ne.symm hq) f hf

lemma updateStatus (db : Db) (p : PaymentId) (status : PaymentStatus) (reference : Option String) :
    Serves p db (PaymentRepository.updateStatus db p status reference) :=
  updatePayment db p (PaymentRepository.withStatus status reference) (fun _ => rfl) fun _ => rfl

lemma settle {r : ReservationId} {status : ReservationStatus}
    {f : Budget → Amount → Except Error Budget}
    (h : BudgetRepository.settle db r status f = .ok db') : Serves p db db' := by
  obtain ⟨row, -, ⟨-, rfl⟩ | ⟨-, budgets, rfl, -⟩⟩ := BudgetRepository.settle_cases h
  · exact refl p _
  · exact ⟨⟨fun _ => rfl, rfl, rfl, rfl, rfl, rfl⟩, fun _ _ => rfl⟩

lemma enqueue (db : Db) (p : PaymentId) (event : OutboxEvent) :
    Serves p db (AgentPay.enqueue db event) :=
  ⟨⟨fun _ => rfl, rfl, rfl, rfl, rfl, rfl⟩, fun _ _ => rfl⟩

end Serves

/-- The accounts a payment is served with are the same afterwards. -/
lemma Keeps.accountsFor (h : Keeps db db') (q : PaymentId) :
    accountsFor db' q = accountsFor db q := by
  have hterms := h.terms q
  simp only [Worker.accountsFor, Worker.paymentCurrency, Worker.joinedAccounts, accountsIn,
    h.requests, customerAccount_congr h.wallets h.ledgerAccounts,
    clearingAccount_congr h.providerAccounts]
  cases hq : db.payments.get? q with
  | none =>
    rw [hq, Option.map_none, Option.map_eq_none_iff] at hterms
    rw [hterms]
  | some payment =>
    rw [hq, Option.map_some, Option.map_eq_some_iff] at hterms
    obtain ⟨payment', hq', hterms⟩ := hterms
    obtain ⟨hrequest, -, hcurrency⟩ : payment'.paymentRequestId = payment.paymentRequestId ∧
      payment'.amount = payment.amount ∧ payment'.currency = payment.currency := by
      simpa [Payment.terms] using hterms
    simp [hq', hrequest, hcurrency]

/-- What the first phase does when it returns. -/
lemma mark_eq_ok (h : mark db p accounts = .ok (claim, db')) :
    ∃ payment request reservationId operationId operations,
      db.payments.get? p = some payment ∧
      db.paymentRequests.get? payment.paymentRequestId = some request ∧
      request.budgetReservationId = some reservationId ∧
      (∃ o, operations.find? (.charge p) = some (operationId, o) ∧ o.paymentId = p ∧
        o.operationType = .charge) ∧
      claim = ⟨p, payment.paymentRequestId, reservationId, payment.amount, payment.currency,
        accounts⟩ ∧
      db' = PaymentRepository.updateStatus (PaymentRepository.setProviderOperation
        { db with providerOperations := operations } p operationId) p .processing none := by
  simp only [mark] at h
  split at h
  · cases h
  rename_i payment hp
  split at h
  · cases h
  rename_i request hr
  split at h
  · cases h
  rename_i reservationId hlink
  obtain ⟨⟨operationId, db₁⟩, hcreate, h⟩ := Except.bind_eq_ok.mp h
  obtain ⟨rfl, rfl⟩ := Prod.mk.inj (Except.ok.inj h)
  refine ⟨payment, request, reservationId, operationId, ?_⟩
  simp only [PaymentRepository.createProviderOperation] at hcreate
  split at hcreate
  · rename_i operations hinsert
    obtain ⟨rfl, rfl⟩ := Prod.mk.inj (Except.ok.inj hcreate)
    have hrows := (Table.insert?_eq_some.mp hinsert).2
    refine ⟨_, hp, hr, hlink, ⟨freshCharge p, Table.find?_eq_some.mpr ⟨?_, rfl⟩, rfl, rfl⟩, rfl,
      rfl⟩
    rw [Table.get?_of_rows_append hrows]
    simp [freshCharge]
  · split at hcreate
    · cases hcreate
    rename_i o hfind
    split_ifs at hcreate with hconflict
    obtain ⟨rfl, rfl⟩ := Prod.mk.inj (Except.ok.inj hcreate)
    obtain ⟨hpayment, htype⟩ := not_or.mp hconflict
    exact ⟨_, hp, hr, hlink, ⟨o, hfind, not_not.mp hpayment, not_not.mp htype⟩, rfl, rfl⟩

lemma mark_serves (h : mark db p accounts = .ok (claim, db')) : Serves p db db' := by
  obtain ⟨payment, request, reservationId, operationId, operations, -, -, -, -, -, rfl⟩ :=
    mark_eq_ok h
  have h₁ : Serves p db { db with providerOperations := operations } := .of_unbooked rfl
  have h₂ : Serves p { db with providerOperations := operations }
      (PaymentRepository.setProviderOperation { db with providerOperations := operations } p
        operationId) :=
    .updatePayment _ p (fun p => { p with providerOperationId := some operationId })
      (fun _ => rfl) fun _ => rfl
  exact (h₁.trans h₂).trans (.updateStatus ..)

/-- The row of a payment that is taken up. -/
lemma get?_taken {payment : Payment} (hp : db.payments.get? p = some payment)
    (operations : Table ProviderOperation ProviderOperation.key) (operationId : OperationId) :
    (PaymentRepository.updateStatus (PaymentRepository.setProviderOperation
        { db with providerOperations := operations } p operationId) p .processing
          none).payments.get? p =
      some (PaymentRepository.withStatus .processing none
        { payment with providerOperationId := some operationId }) := by
  have hget : (PaymentRepository.setProviderOperation
      { db with providerOperations := operations } p operationId).payments.get? p =
      some { payment with providerOperationId := some operationId } :=
    (Table.get?_update_self db.payments p
      (fun p : Payment => { p with providerOperationId := some operationId })
      fun _ => rfl).trans (by rw [hp]; rfl)
  rw [get?_updateStatus, hget]
  rfl

/-- Taking a payment up again changes nothing. -/
lemma mark_again (h : mark db p accounts = .ok (claim, db')) :
    mark db' p accounts = .ok (claim, db') := by
  obtain ⟨payment, request, reservationId, operationId, operations, hp, hr, hlink,
    ⟨o, hfind, hpayment, htype⟩, rfl, rfl⟩ := mark_eq_ok h
  set row : Payment := PaymentRepository.withStatus .processing none
    { payment with providerOperationId := some operationId } with hrow
  set taken := PaymentRepository.updateStatus (PaymentRepository.setProviderOperation
    { db with providerOperations := operations } p operationId) p .processing none
  have hget : taken.payments.get? p = some row := get?_taken hp operations operationId
  have hinsert : taken.providerOperations.insert? (freshCharge p) = none := by
    obtain ⟨ho, hkey⟩ := Table.find?_eq_some.mp hfind
    rw [Table.insert?_eq_none]
    exact fun hadmits => hadmits _ rfl o (Table.mem_of_get? ho) hkey
  have hcreate : PaymentRepository.createProviderOperation taken p .charge (.charge p) =
      .ok (operationId, taken) := by
    rw [PaymentRepository.createProviderOperation, hinsert]
    have hfind : taken.providerOperations.find? (.charge p) = some (operationId, o) := hfind
    simp only [hfind]
    rw [if_neg (not_or.mpr ⟨not_not.mpr hpayment, not_not.mpr htype⟩)]
    have hsame : taken.payments.update p
        (fun p : Payment => { p with providerOperationId := some operationId }) (fun _ => rfl) =
        taken.payments := Table.update_eq_self hget _ rfl
    simp only [PaymentRepository.setProviderOperation, hsame]
  have hstatus : PaymentRepository.updateStatus taken p .processing none = taken := by
    have hsame : taken.payments.update p (PaymentRepository.withStatus .processing none)
        (fun _ => rfl) = taken.payments := by
      apply Table.update_eq_self hget
      simp [hrow, PaymentRepository.withStatus]
    simp only [PaymentRepository.updateStatus, hsame]
  have hrequest : taken.paymentRequests.get? row.paymentRequestId = some request := hr
  simp only [mark, hget, hrequest, hlink]
  refine Except.bind_eq_ok.mpr ⟨_, hcreate, ?_⟩
  simp only [hstatus]
  rfl

/-- A payment that waits for its execution. -/
def Waits (db : Db) (p : PaymentId) : Prop :=
  (db.payments.get? p).map (·.status) = some .processing

lemma mark_waits (h : mark db p accounts = .ok (claim, db')) : Waits db' p := by
  obtain ⟨payment, request, reservationId, operationId, operations, hp, -, -, -, -, rfl⟩ :=
    mark_eq_ok h
  rw [Waits, get?_taken hp]
  rfl

lemma not_waits_updateStatus {status : PaymentStatus} (h : status ≠ .processing) (db : Db)
    (p : PaymentId) (reference : Option String) :
    ¬ Waits (PaymentRepository.updateStatus db p status reference) p := by
  rw [Waits, get?_updateStatus, Option.map_map]
  cases db.payments.get? p with
  | none         => simp
  | some payment => simpa [PaymentRepository.withStatus] using h

/-- The last phase finds the payment decided and writes nothing, or decides it after it has written
what goes with the decision. -/
lemma finalize_cases {answer : ProviderAnswer} {status : PaymentStatus}
    (h : finalize db claim answer = .ok (status, db')) :
    db' = db ∧ ¬ Waits db claim.paymentId ∨
      ∃ db₁ status reference event, Serves claim.paymentId db db₁ ∧ status ≠ .processing ∧
        db' = enqueue (PaymentRepository.updateStatus db₁ claim.paymentId status reference)
          event := by
  simp only [finalize, PaymentOrchestrator.finalize] at h
  split at h
  · cases h
  rename_i row hrow
  have hkept : ∀ status, row.status = status → status ≠ .processing →
      ¬ Waits db claim.paymentId := by
    intro status hstatus hne
    simpa [Waits, hrow, hstatus] using hne
  split_ifs at h with _ _ hsucceeded hfailed hunknown
  · obtain ⟨-, rfl⟩ := Prod.mk.inj (Except.ok.inj h)
    exact .inl ⟨rfl, hkept _ hsucceeded.1 (by decide)⟩
  · obtain ⟨-, rfl⟩ := Prod.mk.inj (Except.ok.inj h)
    exact .inl ⟨rfl, hkept _ hfailed.1 (by decide)⟩
  · obtain ⟨-, rfl⟩ := Prod.mk.inj (Except.ok.inj h)
    exact .inl ⟨rfl, hkept _ hunknown.1 (by decide)⟩
  right
  have hcharges : ∀ f hf,
      Serves claim.paymentId db (PaymentOrchestrator.updateCharges db claim.paymentId f hf) :=
    fun f hf => .of_unbooked rfl
  cases houtcome : answer.outcome with
  | unknown =>
    rw [houtcome] at h
    obtain ⟨-, rfl⟩ := Prod.mk.inj (Except.ok.inj h)
    exact ⟨_, _, _, _, hcharges _ _, by decide, rfl⟩
  | failed =>
    rw [houtcome] at h
    obtain ⟨db₃, hfailed, h⟩ := Except.bind_eq_ok.mp h
    obtain ⟨-, rfl⟩ := Prod.mk.inj (Except.ok.inj h)
    obtain ⟨db₂, hrelease, hfailed⟩ := Except.bind_eq_ok.mp hfailed
    obtain rfl := Except.ok.inj hfailed
    exact ⟨db₂, _, _, _, (hcharges _ _).trans (.settle hrelease), by decide, rfl⟩
  | succeeded =>
    rw [houtcome] at h
    obtain ⟨db₅, hsucceeded, h⟩ := Except.bind_eq_ok.mp h
    obtain ⟨-, rfl⟩ := Prod.mk.inj (Except.ok.inj h)
    obtain ⟨db₂, hconsume, hsucceeded⟩ := Except.bind_eq_ok.mp hsucceeded
    obtain ⟨⟨t, db₃⟩, hupsert, hsucceeded⟩ := Except.bind_eq_ok.mp hsucceeded
    obtain ⟨⟨j, db₄⟩, hpost, hsucceeded⟩ := Except.bind_eq_ok.mp hsucceeded
    obtain rfl := Except.ok.inj hsucceeded
    have hbooks : db₄.unbooked = db₂.unbooked :=
      (postJournal_unbooked hpost).trans (PaymentOrchestrator.upsertCapture_unbooked hupsert)
    exact ⟨db₄, _, _, _, ((hcharges _ _).trans (.settle hconsume)).trans (.of_unbooked hbooks),
      by decide, rfl⟩

lemma finalize_serves {answer : ProviderAnswer} {status : PaymentStatus}
    (h : finalize db claim answer = .ok (status, db')) : Serves claim.paymentId db db' := by
  obtain ⟨rfl, -⟩ | ⟨db₁, status, reference, event, hserves, -, rfl⟩ := finalize_cases h
  · exact .refl ..
  · exact (hserves.trans (.updateStatus ..)).trans (.enqueue ..)

lemma finalize_decides {answer : ProviderAnswer} {status : PaymentStatus}
    (h : finalize db claim answer = .ok (status, db')) : ¬ Waits db' claim.paymentId := by
  obtain ⟨rfl, hwaits⟩ | ⟨db₁, status, reference, event, -, hne, rfl⟩ := finalize_cases h
  · exact hwaits
  · exact not_waits_updateStatus hne db₁ _ reference

/-! ### One pass of the loop -/

/-- The ways a pass ends: the accounts are missing or the first phase raises, and nothing is
written; the payment is taken up and the call raises later; or the payment is decided. -/
inductive Pass (provider : Provider) (db : Db) (p : PaymentId) :
    Except Error PaymentStatus × Db → Prop
  | unready (e : Error) (h : ∀ accounts claim db', accountsFor db p = .ok accounts →
      mark db p accounts ≠ .ok (claim, db')) : Pass provider db p (.error e, db)
  | stopped (e : Error) {accounts : LedgerAccounts} {claim : Claim} {taken : Db}
      (haccounts : accountsFor db p = .ok accounts)
      (hmark : mark db p accounts = .ok (claim, taken)) : Pass provider db p (.error e, taken)
  | decided (status : PaymentStatus) {accounts : LedgerAccounts} {claim : Claim} {taken db' : Db}
      {answer : ProviderAnswer} (haccounts : accountsFor db p = .ok accounts)
      (hmark : mark db p accounts = .ok (claim, taken))
      (hanswer : answerFor provider taken claim = .ok answer)
      (hfinalize : finalize taken claim answer = .ok (status, db')) :
      Pass provider db p (.ok status, db')

lemma serve_pass (provider : Provider) (db : Db) (p : PaymentId) :
    Pass provider db p (serve provider db p) := by
  rw [serve]
  cases haccounts : accountsFor db p with
  | error e => exact .unready e fun accounts claim db' h => by simp [haccounts] at h
  | ok accounts =>
    simp only [processCommitted]
    cases hmark : mark db p accounts with
    | error e =>
      refine .unready e fun accounts' claim db' h => ?_
      obtain rfl : accounts = accounts' := by simpa [haccounts] using h
      simp [hmark]
    | ok marked =>
      obtain ⟨claim, taken⟩ := marked
      simp only
      cases hanswer : answerFor provider taken claim with
      | error e => exact .stopped e haccounts hmark
      | ok answer =>
        simp only
        cases hfinalize : finalize taken claim answer with
        | error e => exact .stopped e haccounts hmark
        | ok finalized => exact .decided _ haccounts hmark hanswer hfinalize

lemma mark_paymentId (h : mark db p accounts = .ok (claim, db')) : claim.paymentId = p := by
  obtain ⟨payment, request, reservationId, operationId, operations, -, -, -, -, rfl, -⟩ :=
    mark_eq_ok h
  rfl

/-- A call that returns is `process_one` in one piece. -/
lemma processCommitted_eq_ok (answer : ProviderAnswer) {status : PaymentStatus} :
    processCommitted (fun _ => .ok answer) db p accounts = (.ok status, db') ↔
      processOne db p accounts answer = .ok (status, db') := by
  rw [processCommitted, processOne]
  cases hmark : mark db p accounts with
  | error e => simp [bind, Except.bind]
  | ok marked =>
    obtain ⟨claim, taken⟩ := marked
    have hanswer : answerFor (fun _ => .ok answer) taken claim =
        .ok ((durable taken p).getD answer) := by
      rw [answerFor, mark_paymentId hmark]
      cases durable taken p <;> rfl
    simp only [hanswer]
    change _ ↔ finalize taken claim ((durable taken p).getD answer) = .ok (status, db')
    cases finalize taken claim ((durable taken p).getD answer) with
    | error e      => simp
    | ok finalized => simp [Prod.ext_iff]

lemma serve_serves (provider : Provider) (db : Db) (p : PaymentId) :
    Serves p db (serve provider db p).2 := by
  have hpass := serve_pass provider db p
  generalize serve provider db p = result at hpass
  cases hpass with
  | unready e h => exact .refl p db
  | stopped e haccounts hmark => exact mark_serves hmark
  | decided status haccounts hmark hanswer hfinalize =>
    have hfinal := finalize_serves hfinalize
    rw [mark_paymentId hmark] at hfinal
    exact (mark_serves hmark).trans hfinal

lemma batch_keeps (provider : Provider) (db : Db) (ids : List PaymentId) :
    Keeps db (batch (serve provider) db ids).2 := by
  induction ids generalizing db with
  | nil => exact .refl db
  | cons p ids ih =>
    have hserves := (serve_serves provider db p).toKeeps
    by_cases hraises : Raises (serve provider db p)
    · rw [(batch_cons_of_raises hraises).2]
      exact hserves
    · rw [(batch_cons_of_not_raises hraises).2]
      exact hserves.trans (ih _)

/-- A payment that is taken up already is served as before. -/
lemma serve_taken (provider : Provider) (haccounts : accountsFor db p = .ok accounts)
    (hmark : mark db p accounts = .ok (claim, db')) :
    serve provider db' p = serve provider db p := by
  simp only [serve, (mark_serves hmark).accountsFor, haccounts, processCommitted, hmark,
    mark_again hmark]

/-- A payment that raises does so again on what it has left, and leaves it as it is. -/
lemma serve_again (h : Raises (serve provider db p)) :
    serve provider (serve provider db p).2 p = serve provider db p := by
  have hpass := serve_pass provider db p
  cases hresult : serve provider db p with
  | mk result db' =>
    rw [hresult] at hpass h
    cases hpass with
    | unready e h => exact hresult
    | stopped e haccounts hmark => exact (serve_taken provider haccounts hmark).trans hresult
    | decided status haccounts hmark hanswer hfinalize =>
      obtain ⟨e, he⟩ := h
      cases he

end Worker

/-! ### What is committed for a payment -/

/-- What the database holds of a payment: its status, its reservation and its books. -/
structure Committed where
  status : Option PaymentStatus
  reservation : Option BudgetReservation
  transactions : List Transaction
  journals : List LedgerJournal
  deriving DecidableEq, Repr

def Db.reservationOf (db : Db) (p : PaymentId) : Option BudgetReservation := do
  let payment ← db.payments.get? p
  let request ← db.paymentRequests.get? payment.paymentRequestId
  db.budgetReservations.get? (← request.budgetReservationId)

def Db.committed (db : Db) (p : PaymentId) : Committed where
  status := (db.payments.get? p).map (·.status)
  reservation := db.reservationOf p
  transactions := db.transactionsOf p
  journals := db.journalsOf p

namespace Worker

variable {provider : Provider} {db db' : Db} {p : PaymentId} {accounts : LedgerAccounts}
  {claim : Claim}

/-- Taking up a payment that waits commits nothing that shows. -/
lemma mark_committed (h : mark db p accounts = .ok (claim, db')) (hwaits : Waits db p)
    (q : PaymentId) : db'.committed q = db.committed q := by
  have hserves := mark_serves h
  have hstatus : (db'.payments.get? q).map (·.status) = (db.payments.get? q).map (·.status) := by
    by_cases hq : q = p
    · have hmark := mark_waits h
      rw [Waits] at hwaits hmark
      rw [hq, hwaits, hmark]
    · rw [hserves.others q hq]
  have hreservation : db'.reservationOf q = db.reservationOf q := by
    have hterms := hserves.terms q
    have hrequests := hserves.requests
    have hreservations : db'.budgetReservations = db.budgetReservations := by
      obtain ⟨_, _, _, _, _, -, -, -, -, -, rfl⟩ := mark_eq_ok h
      rfl
    simp only [Db.reservationOf, hrequests, hreservations]
    cases hq : db.payments.get? q with
    | none =>
      rw [hq, Option.map_none, Option.map_eq_none_iff] at hterms
      rw [hterms]
    | some payment =>
      rw [hq, Option.map_some, Option.map_eq_some_iff] at hterms
      obtain ⟨payment', hq', hterms⟩ := hterms
      have hrequest : payment'.paymentRequestId = payment.paymentRequestId :=
        congrArg Prod.fst hterms
      simp [hq', hrequest]
  obtain ⟨payment, request, reservationId, operationId, operations, -, -, -, -, -, rfl⟩ :=
    mark_eq_ok h
  simp only [Db.committed, hstatus, hreservation]
  rfl

/-- The loop body and what shows of the payments. -/
lemma serve_isolates (provider : Provider) : Isolates (serve provider) Waits Db.committed where
  raised db p hraises hwaits q := by
    have hpass := serve_pass provider db p
    generalize serve provider db p = result at hpass hraises
    cases hpass with
    | unready e h => rfl
    | stopped e haccounts hmark => exact mark_committed hmark hwaits q
    | decided status haccounts hmark hanswer hfinalize =>
      obtain ⟨e, he⟩ := hraises
      cases he
  served db p hdone := by
    have hpass := serve_pass provider db p
    generalize serve provider db p = result at hpass hdone
    cases hpass with
    | unready e h => exact absurd ⟨e, rfl⟩ hdone
    | stopped e haccounts hmark => exact absurd ⟨e, rfl⟩ hdone
    | decided status haccounts hmark hanswer hfinalize =>
      have hdecides := finalize_decides hfinalize
      rwa [mark_paymentId hmark] at hdecides
  others db p q hne := by
    rw [Waits, Waits, (serve_serves provider db p).others q (Ne.symm hne)]
  observed db db' p h := by
    have hstatus : (db.payments.get? p).map (·.status) = (db'.payments.get? p).map (·.status) :=
      congrArg Committed.status h
    rw [Waits, Waits, hstatus]

/-! ### Claims -/

/-- What `pending_for_execution` asks of a payment. -/
def Claimable (db : Db) (locked : List PaymentId) (p : PaymentId) : Prop :=
  Waits db p ∧ p ∉ locked ∧
    ∃ terms request, (db.payments.get? p).map Payment.terms = some terms ∧
      db.paymentRequests.get? terms.1 = some request ∧ request.budgetReservationId.isSome

open Classical in
lemma pendingForExecution_eq (db : Db) (locked : List PaymentId) (limit : ℕ) :
    pendingForExecution db locked limit =
      ((List.range db.payments.nextId).filter fun p => decide (Claimable db locked p)).take
        limit := by
  rw [pendingForExecution]
  congr 1
  apply List.filter_congr
  rintro p -
  cases hp : db.payments.get? p with
  | none => simp [Claimable, Waits, hp]
  | some payment =>
    cases hr : db.paymentRequests.get? payment.paymentRequestId with
    | none => simp [Claimable, Waits, hp, hr, Payment.terms]
    | some request => simp [Claimable, Waits, hp, hr, Payment.terms, Bool.and_assoc]

lemma nodup_pendingForExecution (db : Db) (locked : List PaymentId) (limit : ℕ) :
    (pendingForExecution db locked limit).Nodup := by
  rw [pendingForExecution_eq]
  exact (List.nodup_range.filter _).sublist (List.take_sublist _ _)

open Classical in
lemma waits_of_mem {locked : List PaymentId} {limit : ℕ}
    (h : p ∈ pendingForExecution db locked limit) : Waits db p := by
  rw [pendingForExecution_eq] at h
  exact (of_decide_eq_true (List.mem_filter.mp (List.mem_of_mem_take h)).2).1

/-- What is left to claim once the payments before `p` are gone begins with `p`. -/
lemma take_filter_cons {l pre post : List PaymentId} {f g : PaymentId → Bool} {n : ℕ}
    (hl : l.Nodup) (h : (l.filter f).take n = pre ++ p :: post)
    (hg : ∀ q ∈ l, g q = (f q && decide (q ∉ pre))) :
    ∃ rest, (l.filter g).take n = p :: rest := by
  have hsplit : l.filter f = pre ++ p :: (post ++ (l.filter f).drop n) := by
    have hsplit := List.take_append_drop n (l.filter f)
    rw [h] at hsplit
    simpa using hsplit.symm
  have hnodup : (pre ++ p :: (post ++ (l.filter f).drop n)).Nodup := hsplit ▸ hl.filter f
  have hp : p ∉ pre := fun hp =>
    (List.nodup_append.mp hnodup).2.2 p hp p List.mem_cons_self rfl
  have hfilter : l.filter g = (l.filter f).filter fun q => decide (q ∉ pre) := by
    rw [List.filter_filter]
    apply List.filter_congr
    intro q hq
    rw [hg q hq, Bool.and_comm]
  have hpre : pre.filter (fun q => decide (q ∉ pre)) = [] := by
    simp
  obtain ⟨m, rfl⟩ : ∃ m, n = m + 1 := by
    apply Nat.exists_eq_succ_of_ne_zero
    rintro rfl
    simp at h
  rw [hfilter, hsplit, List.filter_append, hpre, List.nil_append,
    List.filter_cons_of_pos (by simpa using hp), List.take_succ_cons]
  exact ⟨_, rfl⟩

open Classical in
/-- A run that raises is followed by one that claims the same payment first. -/
lemma pendingForExecution_again {locked : List PaymentId} {limit : ℕ} {pre post : List PaymentId}
    (h : pendingForExecution db locked limit = pre ++ p :: post)
    (hpre : ¬ Raises (batch (serve provider) db pre))
    (hp : Raises (serve provider (batch (serve provider) db pre).2 p)) :
    ∃ rest, pendingForExecution (serve provider (batch (serve provider) db pre).2 p).2 locked
      limit = p :: rest := by
  set before := (batch (serve provider) db pre).2 with hbefore
  have hisolates := serve_isolates provider
  have hkeeps : Keeps db (serve provider before p).2 :=
    (batch_keeps provider db pre).trans (serve_serves provider before p).toKeeps
  have hmem : ∀ q ∈ pre ++ p :: post, Waits db q := fun q hq => waits_of_mem (h ▸ hq)
  have hnodup : (pre ++ p :: post).Nodup := h ▸ nodup_pendingForExecution db locked limit
  have hnot : p ∉ pre := fun hp =>
    (List.nodup_append.mp hnodup).2.2 p hp p List.mem_cons_self rfl
  have hwaits : Waits before p :=
    (hisolates.batch_others hnot).mpr (hmem p (List.mem_append_right pre List.mem_cons_self))
  -- what waits afterwards is what waited before, without the payments that are decided
  have hleft : ∀ q, Waits (serve provider before p).2 q ↔ Waits db q ∧ q ∉ pre := by
    intro q
    rw [← hisolates.observed before _ q (hisolates.raised before p hp hwaits q).symm]
    by_cases hq : q ∈ pre
    · have hserved := hisolates.batch_served (List.nodup_append.mp hnodup).1 hpre hq
      exact iff_of_false hserved fun hq' => hq'.2 hq
    · rw [hisolates.batch_others hq]
      exact (and_iff_left hq).symm
  rw [pendingForExecution_eq] at h ⊢
  rw [hkeeps.count]
  refine take_filter_cons List.nodup_range h fun q _ => ?_
  rw [← Bool.decide_and, decide_eq_decide]
  simp only [Claimable, hleft, hkeeps.terms, hkeeps.requests]
  tauto

end Worker

/-! ### Runs -/

section Runs

variable (provider : Provider) (locked : List PaymentId) (limit : ℕ)

/-- The database after `n` runs of the worker. -/
def afterRuns (n : ℕ) (db : Db) : Db := (fun db => (runOnce provider locked limit db).2)^[n] db

/-- Every run after one that raises ends where that one did. -/
lemma runOnce_again {db : Db} (h : Raises (runOnce provider locked limit db)) :
    Raises (runOnce provider locked limit (runOnce provider locked limit db).2) ∧
      (runOnce provider locked limit (runOnce provider locked limit db).2).2 =
        (runOnce provider locked limit db).2 := by
  obtain ⟨pre, p, post, hbatch, hpre, hp, hstate⟩ := Raises.split h
  obtain ⟨rest, hclaim⟩ := Worker.pendingForExecution_again hbatch hpre hp
  have hagain := Worker.serve_again hp
  have hraises : Raises (Worker.serve provider (runOnce provider locked limit db).2 p) := by
    rw [runOnce, hstate, hagain]
    exact hp
  have hstop := batch_cons_of_raises (l := rest) hraises
  have hrun : runOnce provider locked limit (runOnce provider locked limit db).2 =
      batch (Worker.serve provider) (runOnce provider locked limit db).2 (p :: rest) := by
    rw [← hclaim, ← hstate]
    rfl
  rw [hrun]
  refine ⟨hstop.1, hstop.2.trans ?_⟩
  rw [runOnce, hstate, hagain]

lemma afterRuns_of_raises {db : Db} (h : Raises (runOnce provider locked limit db)) (n : ℕ) :
    afterRuns provider locked limit (n + 1) db = (runOnce provider locked limit db).2 := by
  induction n generalizing db with
  | zero => rfl
  | succ n ih =>
    obtain ⟨hraises, hstate⟩ := runOnce_again provider locked limit h
    rw [afterRuns, Function.iterate_succ_apply]
    exact (ih hraises).trans hstate

end Runs

/-! ### Independence -/

/-- The payment fails when its turn comes after `before`: its ledger accounts are missing, or its
`process_one` raises on what the payments before it leave. -/
def Worker.Fails (provider : Provider) (db : Db) (before : List PaymentId) (p : PaymentId) : Prop :=
  (∃ e, accountsFor db p = .error e) ∨
    Raises (serve provider (batch (serve provider) db before).2 p)

lemma Worker.fails_iff {provider : Provider} {db : Db} {before : List PaymentId} {p : PaymentId} :
    Fails provider db before p ↔
      Raises (serve provider (batch (serve provider) db before).2 p) := by
  refine ⟨?_, .inr⟩
  rintro (⟨e, he⟩ | hraises)
  · rw [← (batch_keeps provider db before).accountsFor] at he
    rw [serve, he]
    exact ⟨e, rfl⟩
  · exact hraises

/-- A batch ends with an error exactly when one of its payments fails. -/
lemma Worker.batch_raises_iff {provider : Provider} {db : Db} {ids : List PaymentId} :
    Raises (batch (serve provider) db ids) ↔
      ∃ before p after, ids = before ++ p :: after ∧ Fails provider db before p := by
  constructor
  · intro h
    obtain ⟨before, p, after, hids, -, hp, -⟩ := h.split
    exact ⟨before, p, after, hids, fails_iff.mpr hp⟩
  · rintro ⟨before, p, after, rfl, hp⟩
    by_cases hbefore : Raises (batch (serve provider) db before)
    · exact (batch_append_of_raises hbefore).1
    · exact (batch_append_of_not_raises hbefore).1.mpr
        (batch_cons_of_raises (fails_iff.mp hp)).1

/-- In this run, and after any number of later ones, the other payments of a batch are left as if a
payment that fails had not been in it exactly when an earlier one fails as well, none comes after
it, or the next one fails as well. -/
theorem afterRuns_independent_iff (provider : Provider) (locked : List PaymentId) (limit : ℕ)
    {db : Db} {before after : List PaymentId} {p : PaymentId}
    (hclaim : Worker.pendingForExecution db locked limit = before ++ p :: after)
    (hfails : Worker.Fails provider db before p) (later : ℕ) :
    (∀ q ∈ before ++ after, (afterRuns provider locked limit (later + 1) db).committed q =
        (batch (Worker.serve provider) db (before ++ after)).2.committed q) ↔
      (∃ before' q after', before = before' ++ q :: after' ∧
        Worker.Fails provider db before' q) ∨
      after = [] ∨
      ∃ next rest, after = next :: rest ∧ Worker.Fails provider db before next := by
  have hraises : Raises (runOnce provider locked limit db) := by
    rw [runOnce, hclaim]
    exact Worker.batch_raises_iff.mpr ⟨before, p, after, rfl, hfails⟩
  have hnodup := Worker.nodup_pendingForExecution db locked limit
  have hwaits : ∀ q ∈ before ++ p :: after, Worker.Waits db q := fun q hq =>
    Worker.waits_of_mem (hclaim ▸ hq)
  rw [hclaim] at hnodup
  rw [afterRuns_of_raises provider locked limit hraises, runOnce, hclaim,
    (Worker.serve_isolates provider).drop_iff hnodup hwaits (Worker.fails_iff.mp hfails)]
  simp only [Worker.batch_raises_iff, Worker.fails_iff]

/-- Two payments wait, and the account of the older one has no wallet. -/
def Db.orphaned : Db :=
  { seeded .processing (some .reserved) with
    budgets :=
      [{ accountId := "account", policyId := none, currency := "USD", limitAmount := 1000000,
         consumedAmount := 0, reservedAmount := 500000, active := true }]
    budgetReservations :=
      ⟨[⟨0, 0, .seeded, "USD", .reserved⟩, ⟨0, 1, .seeded, "USD", .reserved⟩], by simp⟩
    paymentRequests :=
      ⟨[{ accountId := "orphan", agentId := "agent", merchantId := none, amount := .seeded,
          currency := "USD", idempotencyKey := "key", requestFingerprint := none,
          policyVersionId := none, budgetId := some 0, budgetReservationId := some 0,
          authorizationEvidenceId := none, authorizationContextHash := none },
        { accountId := "account", agentId := "agent", merchantId := none, amount := .seeded,
          currency := "USD", idempotencyKey := "key", requestFingerprint := none,
          policyVersionId := none, budgetId := some 0, budgetReservationId := some 1,
          authorizationEvidenceId := none, authorizationContextHash := none }], by simp⟩
    payments :=
      ⟨[{ paymentRequestId := 0, amount := .seeded, currency := "USD", status := .processing,
          providerReference := none, providerOperationId := none },
        { paymentRequestId := 1, amount := .seeded, currency := "USD", status := .processing,
          providerReference := none, providerOperationId := none }], by simp⟩ }

/-- The mock provider when it succeeds. -/
def Provider.mock : Provider := fun _ => .ok ⟨.succeeded, some "mock"⟩

theorem afterRuns_independent_iff_orphaned :
    (∀ q ∈ [] ++ [1], (afterRuns .mock [] 25 1 .orphaned).committed q =
        (batch (Worker.serve .mock) .orphaned ([] ++ [1])).2.committed q) ↔
      (∃ before' q after', [] = before' ++ q :: after' ∧
        Worker.Fails .mock .orphaned before' q) ∨
      [1] = [] ∨
      ∃ next rest, [1] = next :: rest ∧ Worker.Fails .mock .orphaned [] next := by
  have hclaim : Worker.pendingForExecution .orphaned [] 25 = [] ++ 0 :: [1] := by decide +kernel
  have hfails : Worker.Fails .mock .orphaned [] 0 :=
    .inl ⟨Worker.missingAccounts, by decide +kernel⟩
  exact afterRuns_independent_iff .mock [] 25 hclaim hfails 0

/-- The payment behind it is not executed in any run, and would be in the first one without it. -/
theorem not_afterRuns_independent_orphaned :
    Worker.pendingForExecution .orphaned [] 25 = [] ++ 0 :: [1] ∧
      Worker.Fails .mock .orphaned [] 0 ∧
      ∀ later, ¬ ∀ q ∈ [] ++ [1], (afterRuns .mock [] 25 (later + 1) .orphaned).committed q =
        (batch (Worker.serve .mock) .orphaned ([] ++ [1])).2.committed q := by
  refine ⟨by decide +kernel, .inl ⟨Worker.missingAccounts, by decide +kernel⟩, ?_⟩
  intro later h
  have hraises : Raises (runOnce .mock [] 25 .orphaned) :=
    ⟨Worker.missingAccounts, by decide +kernel⟩
  have hwaits : ((runOnce .mock [] 25 .orphaned).2.committed 1).status = some .processing := by
    decide +kernel
  have hdone : ((batch (Worker.serve .mock) .orphaned [1]).2.committed 1).status =
      some .succeeded := by
    decide +kernel
  have hsame := congrArg Committed.status (h 1 (List.mem_singleton_self 1))
  rw [afterRuns_of_raises .mock [] 25 hraises, hwaits] at hsame
  exact absurd (hsame.trans hdone) (by decide)

end AgentPay
