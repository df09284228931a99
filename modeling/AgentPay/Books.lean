import AgentPay.Refunds

/-!
# The books of a payment under capture, void and refund

What the lifecycle operations add to the transactions and the journals of a payment, and what holds
of them after any sequence of calls, committed or rolled back.
-/

namespace AgentPay

open Support

/-- A call of the lifecycle for a given payment. -/
inductive LifecycleCall where
  | capture (amount : Decimal) (currency : String) (accounts : LedgerAccounts)
  | void (amount : Decimal) (currency : String)
  | refund (amount : Decimal) (currency : String) (accounts : LedgerAccounts)
  deriving DecidableEq, Repr

namespace LifecycleCall

/-- The operation as far as it gets without the provider. -/
def progress (c : LifecycleCall) (db : Db) (p : PaymentId) : Except Error Progress :=
  match c with
  | .capture amount currency accounts => PaymentLifecycle.capture db p amount currency accounts
  | .void amount currency             => PaymentLifecycle.void db p amount currency
  | .refund amount currency accounts  => PaymentLifecycle.refund db p amount currency accounts

def run (c : LifecycleCall) (db : Db) (p : PaymentId) (outcome : ProviderOutcome) :
    Except Error (PaymentStatus × Db) :=
  c.progress db p >>= Progress.answer outcome

/-- A call that does not ask the provider writes nothing. -/
lemma progress_returned {c : LifecycleCall} {db db' : Db} {p : PaymentId} {status : PaymentStatus}
    (h : c.progress db p = .ok (.returned status db')) : db' = db := by
  cases c with
  | capture amount currency accounts =>
    rcases PaymentLifecycle.capture_eq_ok h with hreturned | ⟨_, _, _, _, _, _, _, _, _, hcalling⟩
    · exact (Progress.returned.inj hreturned).2
    · cases hcalling
  | void amount currency =>
    rcases PaymentLifecycle.void_eq_ok h with hreturned | ⟨_, _, _, _, _, _, _, _, _, hcalling⟩
    · exact (Progress.returned.inj hreturned).2
    · cases hcalling
  | refund amount currency accounts =>
    rcases PaymentLifecycle.refund_eq_ok h with ⟨_, hreturned, -⟩ |
      ⟨_, _, _, _, _, _, _, _, _, _, _, _, _, _, _, hcalling⟩
    · exact (Progress.returned.inj hreturned).2
    · cases hcalling

lemma run_sound {c : LifecycleCall} {db db' : Db} (h : db.Sound) {p : PaymentId}
    {outcome : ProviderOutcome} {answer : PaymentStatus}
    (hrun : c.run db p outcome = .ok (answer, db')) : db'.Sound := by
  obtain ⟨progress, hprogress, hanswer⟩ := Except.bind_eq_ok.mp hrun
  cases c with
  | capture amount currency accounts =>
    obtain ⟨f, heffect, -⟩ := PaymentLifecycle.capture_moves h hprogress hanswer
    exact heffect.sound
  | void amount currency =>
    obtain ⟨f, heffect, -⟩ := PaymentLifecycle.void_moves h hprogress hanswer
    exact heffect.sound
  | refund amount currency accounts =>
    obtain ⟨f, heffect, -⟩ := PaymentLifecycle.refund_moves h hprogress hanswer
    exact heffect.sound

end LifecycleCall

/-- A call, the provider's answer, and whether the transaction commits. -/
structure LifecycleAttempt where
  call : LifecycleCall
  outcome : ProviderOutcome
  commits : Bool
  deriving DecidableEq, Repr

def LifecycleAttempt.step (p : PaymentId) (db : Db) (x : LifecycleAttempt) : Db :=
  if x.commits then db.commit ((x.call.run db p x.outcome).map (·.2)) else db

/-- The type, the amount and the journals of what a call that succeeds posts. -/
def LifecycleCall.posts (p : PaymentId) :
    LifecycleCall → TransactionType × Decimal × List JournalKey
  | .capture amount _ _       => (.capture, amount, [.capture p])
  | .void amount _            => (.void, amount, [])
  | .refund amount currency _ => (.refund, amount, [.refund p amount currency])

namespace Books

/-! ### What a call adds -/

/-- The statuses a payment can be refunded in. -/
abbrev refundables : List PaymentStatus := [.succeeded, .refundFailed, .refunded]

/-- The journal key is that of a transaction: a capture of the payment, or the refund under the key
that the transaction has. -/
def Covers (t : Transaction) : JournalKey → Prop
  | .capture p      => t.type = .capture ∧ t.paymentId = p
  | .refund p a raw => t.idempotencyKey = .refund p a (normCurrency raw)

instance (t : Transaction) : DecidablePred (Covers t)
  | .capture _    => inferInstanceAs (Decidable (_ ∧ _))
  | .refund _ _ _ => inferInstanceAs (Decidable (_ = _))

/-- The journals of a transaction. -/
def journalsFor (db : Db) (t : Transaction) : List LedgerJournal :=
  db.ledgerJournals.rows.filter fun j => decide (Covers t j.idempotencyKey)

/-- The journal debits and credits the amount of the transaction, in its currency. -/
structure Records (j : LedgerJournal) (t : Transaction) : Prop where
  debit : j.total .debit = t.amount.units
  credit : j.total .credit = t.amount.units
  currency : j.currency = t.currency

lemma records_transfer (debitAccount creditAccount : LedgerAccountId) (t : Transaction)
    (reference : JournalReference) (key : JournalKey) :
    Records (transferJournal debitAccount creditAccount t.amount t.currency reference key) t :=
  ⟨total_transferJournal .., total_transferJournal .., rfl⟩

/-- What is left to refund of a payment. -/
def left (db : Db) (p : PaymentId) : ℚ :=
  PaymentLifecycle.postedSum db p .capture - PaymentLifecycle.postedSum db p .refund

/-- From which status to which a call takes a payment, with the rows that it adds. -/
inductive Change (db : Db) (p : PaymentId) :
    PaymentStatus → PaymentStatus → List Transaction → List LedgerJournal → Prop where
  | unanswered : Change db p .authorized .unknownExternalOutcome [] []
  | declined {t status} (hp : t.paymentId = p) (ht : t.status = .failed)
      (hstatus : status = .failed ∨ status = .voidFailed) : Change db p .authorized status [t] []
  | captured {t j} (hp : t.paymentId = p) (htype : t.type = .capture) (ht : t.status = .posted)
      (hkey : t.idempotencyKey = .capture p) (hj : Records j t)
      (hjkey : j.idempotencyKey = .capture p) :
      Change db p .authorized .succeeded [t] [j]
  | voided {t} (hp : t.paymentId = p) (htype : t.type = .void) (ht : t.status = .posted) :
      Change db p .authorized .voided [t] []
  | refundUnanswered {t status} (hstatus : status ∈ refundables) (hp : t.paymentId = p)
      (htype : t.type = .refund) (ht : t.status = .pending) (hleft : t.amount.units ≤ left db p) :
      Change db p status .unknownExternalOutcome [t] []
  | refundDeclined {t status} (hstatus : status ∈ refundables) (hp : t.paymentId = p)
      (htype : t.type = .refund) (ht : t.status = .failed) (hleft : t.amount.units ≤ left db p) :
      Change db p status .refundFailed [t] []
  | refunded {t j status a raw} (hstatus : status ∈ refundables) (hp : t.paymentId = p)
      (htype : t.type = .refund) (ht : t.status = .posted) (hleft : t.amount.units ≤ left db p)
      (hkey : t.idempotencyKey = .refund p a (normCurrency raw))
      (hfree : ∀ t' ∈ db.transactions.rows, t'.idempotencyKey ≠ t.idempotencyKey)
      (hj : Records j t) (hjkey : j.idempotencyKey = .refund p a raw) :
      Change db p status (if left db p - t.amount.units = 0 then .refunded else .succeeded)
        [t] [j]

/-- `db'` has the rows of `db` and those that are added, and leaves the payment in `status`. -/
structure Adds (p : PaymentId) (status : PaymentStatus) (ts : List Transaction)
    (js : List LedgerJournal) (db db' : Db) : Prop where
  payment : ∃ payment, db'.payments.get? p = some payment ∧ payment.status = status
  transactions : db'.transactions.rows = db.transactions.rows ++ ts
  journals : db'.ledgerJournals.rows = db.ledgerJournals.rows ++ js

/-- The rows that a call adds reflect the provider's answer: what the call posts where it succeeded,
and otherwise nothing that is POSTED. -/
def Reflects (c : LifecycleCall) (p : PaymentId) (outcome : ProviderOutcome)
    (ts : List Transaction) (js : List LedgerJournal) : Prop :=
  if outcome = .succeeded then
    (∃ t, ts = [t] ∧ t.paymentId = p ∧ t.type = (c.posts p).1 ∧ t.status = .posted ∧
      (t.amount.units : ℚ) = (c.posts p).2.1.units) ∧
    js.map (·.idempotencyKey) = (c.posts p).2.2
  else (∀ t ∈ ts, t.status ≠ .posted) ∧ js = []

/-- The call ends with the payment's status. -/
lemma adds_of_updateStatus {db db₁ db' : Db} {p : PaymentId} {payment : Payment}
    (hp : db₁.payments.get? p = some payment) {status : PaymentStatus}
    (hpayments : db'.payments = (PaymentRepository.updateStatus db₁ p status none).payments)
    {ts : List Transaction} {js : List LedgerJournal}
    (htransactions : db'.transactions.rows = db.transactions.rows ++ ts)
    (hjournals : db'.ledgerJournals.rows = db.ledgerJournals.rows ++ js) :
    Adds p status ts js db db' := by
  refine ⟨⟨PaymentRepository.withStatus status none payment, ?_, rfl⟩, htransactions, hjournals⟩
  rw [hpayments, get?_updateStatus, hp]
  rfl

lemma get?_of_updateStatus {db : Db} {p : PaymentId} {payment : Payment}
    (hp : db.payments.get? p = some payment) (status : PaymentStatus) :
    (PaymentRepository.updateStatus db p status none).payments.get? p =
      some (PaymentRepository.withStatus status none payment) := by
  rw [get?_updateStatus, hp]
  rfl

/-- An operation row is filed: the books and the payment's place stay. -/
lemma createProviderOperation_leaves {db db' : Db} {p : PaymentId} {type : OperationType}
    {key : OperationKey} {id : OperationId}
    (h : PaymentRepository.createProviderOperation db p type key = .ok (id, db'))
    {payment : Payment}
    (hp : db.payments.get? p = some payment) :
    (∃ payment', db'.payments.get? p = some payment') ∧ db'.transactions = db.transactions ∧
      db'.ledgerJournals = db.ledgerJournals := by
  have hset : ∀ db' : Db, db'.payments = db.payments → ∃ payment',
      (PaymentRepository.setProviderOperation db' p id).payments.get? p = some payment' := by
    intro db' hpayments
    have hget : (PaymentRepository.setProviderOperation db' p id).payments.get? p =
        (db'.payments.get? p).map fun p => { p with providerOperationId := some id } :=
      Table.get?_update_self db'.payments p (fun p => { p with providerOperationId := some id })
        fun _ => rfl
    rw [hpayments, hp] at hget
    exact ⟨_, hget⟩
  rcases PaymentRepository.createProviderOperation_eq_ok h with
    ⟨operations, -, -, rfl⟩ | ⟨-, rfl⟩
  · exact ⟨hset { db with providerOperations := operations } rfl, rfl, rfl⟩
  · exact ⟨hset db rfl, rfl, rfl⟩

/-- A transaction goes in under a free key. -/
lemma createTransaction_appends {db db' : Db} {p : PaymentId} {type : TransactionType}
    {amount : Decimal} {currency : String} {key : TransactionKey} {status : TransactionStatus}
    {id : TransactionId}
    (hrun : PaymentLifecycle.createTransaction db p type amount currency key status =
      .ok (id, db')) (hkey : db.transactions.row? key = none) :
    ∃ stored, Amount.store amount = .ok stored ∧ id = db.transactions.nextId ∧
      ∃ transactions, transactions.rows = db.transactions.rows ++
          [PaymentLifecycle.newTransaction p type stored currency key status] ∧
        db' = { db with transactions } := by
  rcases PaymentLifecycle.createTransaction_eq_ok hrun with ⟨t, ht, htkey, -⟩ |
    ⟨stored, hstored, hid, -, transactions, hrows, hdb⟩
  · exact absurd (congrArg some htkey) (Table.row?_eq_none.mp hkey t (Table.mem_of_get? ht))
  · exact ⟨stored, hstored, hid, transactions, hrows, hdb⟩

/-- A journal is posted under a free key. -/
lemma postJournal_appends {db db' : Db} {currency : String} {reference : JournalReference}
    {key : JournalKey} {debitAccount creditAccount : LedgerAccountId} {amount : Decimal} {id : ℕ}
    (hrun : postJournal db currency reference key
      (transfer debitAccount creditAccount amount currency) = .ok (id, db'))
    (hkey : ∀ j ∈ db.ledgerJournals.rows, j.idempotencyKey ≠ key) {stored : Amount}
    (hstored : Amount.store amount = .ok stored) :
    ∃ journals, journals.rows = db.ledgerJournals.rows ++
        [transferJournal debitAccount creditAccount stored currency reference key] ∧
      db' = { db with ledgerJournals := journals } := by
  obtain ⟨-, ⟨hid, -⟩ | ⟨-, -, -, -, stored', journals, hstored', hinsert, rfl⟩⟩ :=
    postJournal_transfer_eq_ok.mp hrun
  · obtain ⟨j, hj, hjkey⟩ := Table.idOf?_get? hid
    exact absurd (Option.some.inj hjkey) (hkey j (Table.mem_of_get? hj))
  · obtain rfl := Except.ok.inj (hstored.symm.trans hstored')
    exact ⟨journals, (Table.insert?_eq_some.mp hinsert).2, rfl⟩

/-- An amount that is the payment's is stored as it is. -/
lemma units_of_validated {amount : Decimal} {currency normalized : String} {payment : Payment}
    (hvalid : PaymentLifecycle.validateOperationAmount amount currency payment = .ok normalized)
    {stored : Amount} (hstored : Amount.store amount = .ok stored) :
    (stored.units : ℚ) = amount.units := by
  obtain ⟨-, hunits, -⟩ := PaymentLifecycle.validateOperationAmount_eq_ok hvalid
  rw [Amount.units_toDecimal] at hunits
  rw [Amount.store_of_units hunits] at hstored
  rw [← Except.ok.inj hstored, hunits]

/-! ### An authorized payment -/

section Authorized

variable {db db' : Db} (hs : db.Sound) {p : PaymentId} {payment : Payment}
  (hp : db.payments.get? p = some payment) (htransactions : db.transactionsOf p = [])
  (hjournals : db.journalsOf p = [])

include hs htransactions in
lemma free_key {key : TransactionKey} (hkey : key.paymentId = p) :
    db.transactions.row? key = none := by
  refine Table.row?_eq_none.mpr fun t ht htkey => ?_
  have hfiled := (hs.transaction t ht).1.payment
  rw [show t.idempotencyKey = key from Option.some.inj htkey, hkey] at hfiled
  have hmem : t ∈ db.transactionsOf p := List.mem_filter.mpr ⟨ht, decide_eq_true hfiled⟩
  rw [htransactions] at hmem
  cases hmem

include hjournals in
lemma free_journal {key : JournalKey} (hkey : key.paymentId = p) :
    ∀ j ∈ db.ledgerJournals.rows, j.idempotencyKey ≠ key := by
  rintro j hj rfl
  have hmem : j ∈ db.journalsOf p := List.mem_filter.mpr ⟨hj, decide_eq_true hkey⟩
  rw [hjournals] at hmem
  cases hmem

include hs hp htransactions

include hjournals in
lemma capture_changes {amount : Decimal} {currency : String} {accounts : LedgerAccounts}
    {call : ProviderCall} {answered : ProviderOutcome → Except Error (PaymentStatus × Db)}
    (hrun : PaymentLifecycle.capture db p amount currency accounts = .ok (.calling call answered))
    {outcome : ProviderOutcome} {answer : PaymentStatus}
    (hanswer : answered outcome = .ok (answer, db')) :
    ∃ status ts js, Change db p .authorized status ts js ∧ Adds p status ts js db db' ∧
      Reflects (.capture amount currency accounts) p outcome ts js := by
  rcases PaymentLifecycle.capture_eq_ok hrun with hreturned | ⟨payment', id, db₁, minor, hp', -,
    hvalid, hop, -, hcalling⟩
  · cases hreturned
  obtain ⟨-, rfl⟩ := Progress.calling.inj hcalling
  obtain ⟨⟨payment₁, hp₁⟩, htx, hj⟩ := createProviderOperation_leaves hop hp
  cases outcome with
  | unknown =>
    obtain ⟨-, rfl⟩ := by simpa [PaymentLifecycle.captureAnswered] using hanswer
    refine ⟨_, _, _, .unanswered, adds_of_updateStatus hp₁ (by rfl) ?_ ?_, ?_⟩
    · simp [PaymentRepository.updateStatus, htx]
    · simp [PaymentRepository.updateStatus, hj]
    · simp [Reflects]
  | failed =>
    obtain ⟨⟨transactionId, db₂⟩, hcreate, hanswer⟩ := Except.bind_eq_ok.mp hanswer
    obtain ⟨-, rfl⟩ : _ = answer ∧ db₂ = db' := by simpa [pure, Except.pure] using hanswer
    have hfree : db₁.transactions.row? (.captureFailed p) = none :=
      htx ▸ free_key hs htransactions rfl
    obtain ⟨stored, -, -, transactions, hrows, rfl⟩ := createTransaction_appends hcreate hfree
    refine ⟨_, [PaymentLifecycle.newTransaction p .capture stored (normCurrency currency)
      (.captureFailed p) .failed], [], .declined rfl rfl (.inl rfl),
      adds_of_updateStatus hp₁ (by rfl) ?_ ?_, ?_⟩
    · rw [← htx]
      exact hrows
    · simp [PaymentRepository.updateStatus, hj]
    · simp [Reflects, PaymentLifecycle.newTransaction]
  | succeeded =>
    obtain ⟨⟨transactionId, db₂⟩, hcreate, hanswer⟩ := Except.bind_eq_ok.mp hanswer
    obtain ⟨⟨journalId, db₃⟩, hjournal, hanswer⟩ := Except.bind_eq_ok.mp hanswer
    obtain ⟨-, rfl⟩ : _ = answer ∧ _ = db' := by simpa [pure, Except.pure] using hanswer
    have hfree : db₁.transactions.row? (.capture p) = none :=
      htx ▸ free_key hs htransactions rfl
    obtain ⟨stored, hstored, rfl, transactions, hrows, rfl⟩ :=
      createTransaction_appends hcreate hfree
    have hfreeJournal : ∀ j ∈ db₁.ledgerJournals.rows, j.idempotencyKey ≠ .capture p :=
      hj ▸ free_journal hjournals rfl
    obtain ⟨journals, hjrows, rfl⟩ := postJournal_appends hjournal hfreeJournal hstored
    set t := PaymentLifecycle.newTransaction p .capture stored (normCurrency currency) (.capture p)
      .posted with ht
    have hrecords : Records (transferJournal accounts.customer accounts.clearing stored
        (normCurrency currency) (.transaction db₁.transactions.nextId) (.capture p)) t :=
      records_transfer _ _ t _ _
    refine ⟨_, [t], _, .captured rfl rfl rfl rfl hrecords rfl,
      adds_of_updateStatus hp₁ (by rfl) ?_ ?_,
      ⟨t, rfl, rfl, rfl, rfl, units_of_validated hvalid hstored⟩, rfl⟩
    · rw [← htx]
      exact hrows
    · rw [← hj]
      exact hjrows

lemma void_changes {amount : Decimal} {currency : String} {call : ProviderCall}
    {answered : ProviderOutcome → Except Error (PaymentStatus × Db)}
    (hrun : PaymentLifecycle.void db p amount currency = .ok (.calling call answered))
    {outcome : ProviderOutcome} {answer : PaymentStatus}
    (hanswer : answered outcome = .ok (answer, db')) :
    ∃ status ts js, Change db p .authorized status ts js ∧ Adds p status ts js db db' ∧
      Reflects (.void amount currency) p outcome ts js := by
  rcases PaymentLifecycle.void_eq_ok hrun with hreturned | ⟨payment', id, db₁, minor, hp', -,
    hvalid, hop, -, hcalling⟩
  · cases hreturned
  obtain ⟨-, rfl⟩ := Progress.calling.inj hcalling
  obtain ⟨⟨payment₁, hp₁⟩, htx, hj⟩ :=
    createProviderOperation_leaves hop (get?_of_updateStatus hp .voidRequested)
  have htx : db₁.transactions = db.transactions := htx
  have hj : db₁.ledgerJournals = db.ledgerJournals := hj
  cases outcome with
  | unknown =>
    obtain ⟨-, rfl⟩ := by simpa [PaymentLifecycle.voidAnswered] using hanswer
    refine ⟨_, _, _, .unanswered, adds_of_updateStatus hp₁ (by rfl) ?_ ?_, ?_⟩
    · simp [PaymentRepository.updateStatus, htx]
    · simp [PaymentRepository.updateStatus, hj]
    · simp [Reflects]
  | failed =>
    obtain ⟨⟨transactionId, db₂⟩, hcreate, hanswer⟩ := Except.bind_eq_ok.mp hanswer
    obtain ⟨-, rfl⟩ : _ = answer ∧ db₂ = db' := by simpa [pure, Except.pure] using hanswer
    have hfree : db₁.transactions.row? (.voidFailed p) = none :=
      htx ▸ free_key hs htransactions rfl
    obtain ⟨stored, -, -, transactions, hrows, rfl⟩ := createTransaction_appends hcreate hfree
    refine ⟨_, [PaymentLifecycle.newTransaction p .void stored (normCurrency currency)
      (.voidFailed p) .failed], [], .declined rfl rfl (.inr rfl),
      adds_of_updateStatus hp₁ (by rfl) ?_ ?_, ?_⟩
    · rw [← htx]
      exact hrows
    · simp [PaymentRepository.updateStatus, hj]
    · simp [Reflects, PaymentLifecycle.newTransaction]
  | succeeded =>
    obtain ⟨⟨transactionId, db₂⟩, hcreate, hanswer⟩ := Except.bind_eq_ok.mp hanswer
    obtain ⟨-, rfl⟩ : _ = answer ∧ _ = db' := by simpa [pure, Except.pure] using hanswer
    have hfree : db₁.transactions.row? (.void p) = none :=
      htx ▸ free_key hs htransactions rfl
    obtain ⟨stored, hstored, -, transactions, hrows, rfl⟩ :=
      createTransaction_appends hcreate hfree
    refine ⟨_, [PaymentLifecycle.newTransaction p .void stored (normCurrency currency)
      (.void p) .posted], [], .voided rfl rfl rfl, adds_of_updateStatus hp₁ (by rfl) ?_ ?_,
      ⟨_, rfl, rfl, rfl, rfl, units_of_validated hvalid hstored⟩, rfl⟩
    · rw [← htx]
      exact hrows
    · simp [PaymentRepository.updateStatus, hj]

end Authorized

/-! ### A captured payment -/

lemma modify_concat {α : Type*} (l : List α) (a : α) (f : α → α) :
    (l ++ [a]).modify l.length f = l ++ [f a] := by
  induction l with
  | nil => rfl
  | cons b l ih => simp [ih]

section Captured

variable {db db' : Db} (hs : db.Sound) {p : PaymentId} {payment : Payment}
  (hp : db.payments.get? p = some payment)
  (hpending : ∀ t ∈ db.transactionsOf p, t.status ≠ .pending)
  (hkeyed : ∀ j ∈ db.journalsOf p, ∀ a raw, j.idempotencyKey = .refund p a raw →
    ∃ t ∈ db.transactions.rows, t.idempotencyKey = .refund p a (normCurrency raw) ∧
      t.status = .posted)

include hs hpending in
/-- No row of a refundable payment is PENDING: one that does not answer a refund is not there. -/
lemma free_refund {amount : Decimal} {currency : String}
    (hunsettled : ∀ t, db.transactions.row? (.refund p amount currency) = some t →
      t.status = .pending) : db.transactions.row? (.refund p amount currency) = none := by
  cases hrow : db.transactions.row? (.refund p amount currency) with
  | none => rfl
  | some t =>
    obtain ⟨ht, hkey⟩ := Table.row?_eq_some.mp hrow
    have hpayment := (hs.transaction t ht).1.payment
    rw [show t.idempotencyKey = _ from Option.some.inj hkey] at hpayment
    exact absurd (hunsettled t hrow)
      (hpending t (List.mem_filter.mpr ⟨ht, decide_eq_true hpayment⟩))

include hs hp hpending hkeyed

lemma refund_changes {amount : Decimal} {rawCurrency : String} {accounts : LedgerAccounts}
    {call : ProviderCall} {answered : ProviderOutcome → Except Error (PaymentStatus × Db)}
    (hrun : PaymentLifecycle.refund db p amount rawCurrency accounts =
      .ok (.calling call answered))
    {outcome : ProviderOutcome} {answer : PaymentStatus}
    (hanswer : answered outcome = .ok (answer, db')) :
    ∃ status ts js, Change db p payment.status status ts js ∧ Adds p status ts js db db' ∧
      Reflects (.refund amount rawCurrency accounts) p outcome ts js := by
  rcases PaymentLifecycle.refund_eq_ok hrun with ⟨_, hreturned, -⟩ | ⟨payment', id, db₁, refundId,
    db₂, minor, hp', hstatus, -, -, hunsettled, hwithin, hop, hcreate, hminor, hcalling⟩
  · cases hreturned
  obtain rfl := Option.some.inj (hp.symm.trans hp')
  obtain ⟨-, rfl⟩ := Progress.calling.inj hcalling
  obtain ⟨⟨payment₁, hp₁⟩, htx, hj⟩ :=
    createProviderOperation_leaves hop (get?_of_updateStatus hp .refundProcessing)
  have htx : db₁.transactions = db.transactions := htx
  have hj : db₁.ledgerJournals = db.ledgerJournals := hj
  have hfree := free_refund hs hpending hunsettled
  obtain ⟨stored, hstored, rfl, transactions, hrows, rfl⟩ :=
    createTransaction_appends hcreate (htx ▸ hfree)
  have hunits : (stored.units : ℚ) = amount.units :=
    Refund.Cents.units_store ⟨minor, hminor⟩ hstored
  have hleft : (stored.units : ℚ) ≤ left db p := hunits ▸ hwithin
  set t := PaymentLifecycle.newTransaction p .refund stored (normCurrency rawCurrency)
    (.refund p amount (normCurrency rawCurrency)) .pending with ht
  have hset : ∀ status, (transactions.update db₁.transactions.nextId (fun t => { t with status })
      fun _ => rfl).rows = db.transactions.rows ++ [{ t with status }] := by
    intro status
    show transactions.rows.modify _ _ = _
    rw [hrows, htx]
    exact modify_concat ..
  cases outcome with
  | unknown =>
    obtain ⟨-, rfl⟩ := by simpa [PaymentLifecycle.refundAnswered] using hanswer
    refine ⟨_, [t], [], .refundUnanswered hstatus rfl rfl rfl hleft,
      adds_of_updateStatus hp₁ (by rfl) ?_ ?_, ?_⟩
    · rw [← htx]
      exact hrows
    · simp [PaymentRepository.updateStatus, hj]
    · simp [Reflects, ht, PaymentLifecycle.newTransaction]
  | failed =>
    obtain ⟨-, rfl⟩ := by simpa [PaymentLifecycle.refundAnswered] using hanswer
    refine ⟨_, [{ t with status := .failed }], [], .refundDeclined hstatus rfl rfl rfl hleft,
      adds_of_updateStatus hp₁ (by rfl) (hset .failed) ?_, by simp [Reflects]⟩
    simp [PaymentRepository.updateStatus, PaymentLifecycle.setTransactionStatus, hj]
  | succeeded =>
    obtain ⟨⟨journalId, db₃⟩, hjournal, hanswer⟩ := Except.bind_eq_ok.mp hanswer
    obtain ⟨-, rfl⟩ : _ = answer ∧ _ = db' := by simpa [pure, Except.pure] using hanswer
    have hfreeJournal : ∀ j ∈ db₁.ledgerJournals.rows,
        j.idempotencyKey ≠ .refund p amount rawCurrency := by
      intro j hjmem hjkey
      rw [hj] at hjmem
      obtain ⟨t', ht', htkey, hposted⟩ := hkeyed j
        (List.mem_filter.mpr ⟨hjmem, decide_eq_true (by rw [hjkey]; rfl)⟩) _ _ hjkey
      exact Table.row?_eq_none.mp hfree t' ht' (congrArg some htkey)
    obtain ⟨journals, hjrows, rfl⟩ := postJournal_appends hjournal hfreeJournal hstored
    have hremains : ((PaymentLifecycle.postedSum db p .capture : ℚ) -
        (PaymentLifecycle.postedSum db p .refund + amount.units) = 0) ↔
        left db p - stored.units = 0 := by
      rw [left, hunits, sub_add_eq_sub_sub]
    have hnew : ∀ t' ∈ db.transactions.rows,
        t'.idempotencyKey ≠ .refund p amount (normCurrency rawCurrency) :=
      fun t' ht' htkey => Table.row?_eq_none.mp hfree t' ht' (congrArg some htkey)
    have hrecords : Records (transferJournal accounts.clearing accounts.customer stored
        (normCurrency rawCurrency) (.transaction db₁.transactions.nextId)
        (.refund p amount rawCurrency)) { t with status := .posted } :=
      records_transfer _ _ { t with status := .posted } _ _
    refine ⟨_, [{ t with status := .posted }], _,
      .refunded hstatus rfl rfl rfl hleft rfl hnew hrecords rfl,
      adds_of_updateStatus hp₁ ?_ (hset .posted) ?_, ⟨_, rfl, rfl, rfl, rfl, hunits⟩, rfl⟩
    · rw [if_congr hremains rfl rfl]
      rfl
    · rw [← hj]
      exact hjrows

end Captured

/-! ### Transactions and their journals -/

/-- Every POSTED capture or refund of the payment has its journal, and every journal of a refund its
transaction. -/
structure Rows (p : PaymentId) (db : Db) : Prop where
  recorded : ∀ t ∈ db.transactionsOf p, t.status = .posted → t.type ≠ .void →
    ∃ j, journalsFor db t = [j] ∧ Records j t
  keyed : ∀ j ∈ db.journalsOf p, ∀ a raw, j.idempotencyKey = .refund p a raw →
    ∃ t ∈ db.transactions.rows, t.idempotencyKey = .refund p a (normCurrency raw) ∧
      t.status = .posted

section Rows

variable {db db' : Db} {p : PaymentId} {t : Transaction} {j : LedgerJournal}

lemma transactionsOf_concat (h : db'.transactions.rows = db.transactions.rows ++ [t])
    (ht : t.paymentId = p) : db'.transactionsOf p = db.transactionsOf p ++ [t] := by
  simp [Db.transactionsOf, h, ht]

lemma transactionsOf_congr (h : db'.transactions.rows = db.transactions.rows) :
    db'.transactionsOf p = db.transactionsOf p := by
  simp [Db.transactionsOf, h]

lemma journalsOf_concat (h : db'.ledgerJournals.rows = db.ledgerJournals.rows ++ [j])
    (hj : j.idempotencyKey.paymentId = p) : db'.journalsOf p = db.journalsOf p ++ [j] := by
  simp [Db.journalsOf, h, hj]

lemma journalsOf_congr (h : db'.ledgerJournals.rows = db.ledgerJournals.rows) :
    db'.journalsOf p = db.journalsOf p := by
  simp [Db.journalsOf, h]

lemma Rows.congr (h : Rows p db) (htransactions : db'.transactions.rows = db.transactions.rows)
    (hjournals : db'.ledgerJournals.rows = db.ledgerJournals.rows) : Rows p db' := by
  refine ⟨fun t ht => ?_, fun j hj => ?_⟩
  · rw [journalsFor, hjournals]
    exact h.recorded t (transactionsOf_congr htransactions ▸ ht)
  · rw [htransactions]
    exact h.keyed j (journalsOf_congr hjournals ▸ hj)

/-- A row that needs no journal. -/
lemma Rows.concat (h : Rows p db)
    (htransactions : db'.transactions.rows = db.transactions.rows ++ [t]) (hp : t.paymentId = p)
    (hjournals : db'.ledgerJournals.rows = db.ledgerJournals.rows)
    (ht : t.status = .posted → t.type = .void) : Rows p db' := by
  refine ⟨fun t' hmem hposted hvoid => ?_, fun j hj a raw hkey => ?_⟩
  · rw [transactionsOf_concat htransactions hp] at hmem
    rw [journalsFor, hjournals]
    rcases List.mem_append.mp hmem with hold | hnew
    · exact h.recorded t' hold hposted hvoid
    · obtain rfl := List.mem_singleton.mp hnew
      exact absurd (ht hposted) hvoid
  · obtain ⟨t', ht', hrow⟩ := h.keyed j (journalsOf_congr hjournals ▸ hj) a raw hkey
    rw [htransactions]
    exact ⟨t', List.mem_append_left _ ht', hrow⟩

/-- A row that comes with its journal. -/
lemma Rows.concat_journal (h : Rows p db)
    (htransactions : db'.transactions.rows = db.transactions.rows ++ [t]) (hp : t.paymentId = p)
    (hjournals : db'.ledgerJournals.rows = db.ledgerJournals.rows ++ [j])
    (hjp : j.idempotencyKey.paymentId = p) (hj : Records j t) (hcovers : Covers t j.idempotencyKey)
    (hfree : journalsFor db t = [])
    (hothers : ∀ t' ∈ db.transactionsOf p, ¬ Covers t' j.idempotencyKey)
    (hposted : t.status = .posted) : Rows p db' := by
  refine ⟨fun t' hmem hposted' hvoid => ?_, fun j' hmem a raw hkey => ?_⟩
  · rw [transactionsOf_concat htransactions hp] at hmem
    rw [journalsFor, hjournals, List.filter_append]
    rcases List.mem_append.mp hmem with hold | hnew
    · obtain ⟨j', hj', hrecords⟩ := h.recorded t' hold hposted' hvoid
      refine ⟨j', ?_, hrecords⟩
      rw [journalsFor] at hj'
      rw [hj']
      simp [hothers t' hold]
    · obtain rfl := List.mem_singleton.mp hnew
      refine ⟨j, ?_, hj⟩
      rw [journalsFor] at hfree
      rw [hfree]
      simp [hcovers]
  · rw [htransactions]
    rw [journalsOf_concat hjournals hjp] at hmem
    rcases List.mem_append.mp hmem with hold | hnew
    · obtain ⟨t', ht', hrow⟩ := h.keyed j' hold a raw hkey
      exact ⟨t', List.mem_append_left _ ht', hrow⟩
    · obtain rfl := List.mem_singleton.mp hnew
      rw [hkey] at hcovers
      exact ⟨t, List.mem_append_right _ (List.mem_singleton_self t), hcovers, hposted⟩

end Rows

/-! ### The invariant -/

/-- Where a payment is: nothing is on its books; it came to an end without a capture; or it is
captured, with refunds within the capture. -/
inductive Phase (p : PaymentId) (db : Db) (status : PaymentStatus) : Prop where
  | authorized (hstatus : status = .authorized) (htransactions : db.transactionsOf p = [])
      (hjournals : db.journalsOf p = [])
  | closed (hstatus : status ≠ .authorized ∧ status ∉ refundables)
      (hvoid : ∀ t ∈ db.transactionsOf p, t.status = .posted → t.type = .void)
  | captured (hstatus : status ∈ refundables ∨ status = .unknownExternalOutcome)
      (hvoid : ∀ t ∈ db.transactionsOf p, t.type ≠ .void)
      (hpending : status ∈ refundables → ∀ t ∈ db.transactionsOf p, t.status ≠ .pending)
      (hpos : 0 < PaymentLifecycle.postedSum db p .capture)
      (hle : PaymentLifecycle.postedSum db p .refund ≤ PaymentLifecycle.postedSum db p .capture)
      (hrefunded : status = .refunded ↔
        PaymentLifecycle.postedSum db p .refund = PaymentLifecycle.postedSum db p .capture)

/-- What every call keeps. -/
structure Kept (p : PaymentId) (db : Db) : Prop where
  sound : db.Sound
  rows : Rows p db
  phase : ∃ payment, db.payments.get? p = some payment ∧ Phase p db payment.status

lemma postedSum_concat {db db' : Db} {t : Transaction}
    (h : db'.transactions.rows = db.transactions.rows ++ [t]) (p : PaymentId)
    (type : TransactionType) : PaymentLifecycle.postedSum db' p type =
      PaymentLifecycle.postedSum db p type +
        if t.paymentId = p ∧ t.type = type ∧ t.status = .posted then t.amount.units else 0 := by
  simp [PaymentLifecycle.postedSum, h]

/-- The sum is over the rows of the payment. -/
lemma postedSum_eq (db : Db) (p : PaymentId) (type : TransactionType) :
    PaymentLifecycle.postedSum db p type = ((db.transactionsOf p).map fun t =>
      if t.type = type ∧ t.status = .posted then t.amount.units else 0).sum := by
  rw [PaymentLifecycle.postedSum, Db.transactionsOf]
  induction db.transactions.rows with
  | nil => rfl
  | cons t ts ih =>
    rw [List.map_cons, List.sum_cons, ih]
    by_cases hp : t.paymentId = p
    · simp [hp]
    · simp [hp]

/-- Without a posted row of a type its sum is zero. -/
lemma postedSum_eq_zero {db : Db} {p : PaymentId} {type : TransactionType}
    (h : ∀ t ∈ db.transactionsOf p, t.status = .posted → t.type ≠ type) :
    PaymentLifecycle.postedSum db p type = 0 := by
  refine List.sum_eq_zero fun n hn => ?_
  obtain ⟨t, ht, rfl⟩ := List.mem_map.mp hn
  refine if_neg ?_
  rintro ⟨hp, htype, hposted⟩
  exact h t (List.mem_filter.mpr ⟨ht, decide_eq_true hp⟩) hposted htype

lemma Phase.of_authorized {p : PaymentId} {db : Db} (h : Phase p db .authorized) :
    db.transactionsOf p = [] ∧ db.journalsOf p = [] := by
  cases h with
  | authorized _ htransactions hjournals => exact ⟨htransactions, hjournals⟩
  | closed hstatus => exact absurd rfl hstatus.1
  | captured hstatus => exact absurd hstatus (by decide)

/-- The books of a payment that can be refunded. -/
structure Refundable (p : PaymentId) (db : Db) (status : PaymentStatus) : Prop where
  void : ∀ t ∈ db.transactionsOf p, t.type ≠ .void
  pending : ∀ t ∈ db.transactionsOf p, t.status ≠ .pending
  pos : 0 < PaymentLifecycle.postedSum db p .capture
  le : PaymentLifecycle.postedSum db p .refund ≤ PaymentLifecycle.postedSum db p .capture
  refunded : status = .refunded ↔
    PaymentLifecycle.postedSum db p .refund = PaymentLifecycle.postedSum db p .capture

lemma Phase.of_refundable {p : PaymentId} {db : Db} {status : PaymentStatus}
    (h : Phase p db status) (hstatus : status ∈ refundables) : Refundable p db status := by
  cases h with
  | authorized hauthorized =>
    rw [hauthorized] at hstatus
    exact absurd hstatus (by decide)
  | closed hclosed => exact absurd hstatus hclosed.2
  | captured _ hvoid hpending hpos hle hrefunded =>
    exact ⟨hvoid, hpending hstatus, hpos, hle, hrefunded⟩

section Step

variable {db db' : Db} {p : PaymentId} {before status : PaymentStatus} {ts : List Transaction}
  {js : List LedgerJournal}

/-- A change keeps the rows in order. -/
lemma Change.rows (h : Change db p before status ts js) (hrows : Rows p db)
    (hphase : Phase p db before) (hadds : Adds p status ts js db db') : Rows p db' := by
  obtain ⟨-, htransactions, hjournals⟩ := hadds
  cases h with
  | unanswered => exact hrows.congr (by simpa using htransactions) (by simpa using hjournals)
  | declined hp ht hstatus =>
    exact hrows.concat htransactions hp (by simpa using hjournals) fun hposted => by
      rw [ht] at hposted
      cases hposted
  | voided hp htype ht =>
    exact hrows.concat htransactions hp (by simpa using hjournals) fun _ => htype
  | refundUnanswered hstatus hp htype ht hleft =>
    exact hrows.concat htransactions hp (by simpa using hjournals) fun hposted => by
      rw [ht] at hposted
      cases hposted
  | refundDeclined hstatus hp htype ht hleft =>
    exact hrows.concat htransactions hp (by simpa using hjournals) fun hposted => by
      rw [ht] at hposted
      cases hposted
  | @captured t j hp htype ht hkey hj hjkey =>
    obtain ⟨hnone, hnojournal⟩ := hphase.of_authorized
    refine hrows.concat_journal htransactions hp hjournals (by rw [hjkey]; rfl) hj ?_ ?_ ?_ ht
    · rw [hjkey]
      exact ⟨htype, hp⟩
    · refine List.filter_eq_nil_iff.mpr fun j' hj' hcovers => ?_
      have hcovers := of_decide_eq_true hcovers
      have hpayment : j'.idempotencyKey.paymentId = p := by
        cases hkey' : j'.idempotencyKey with
        | capture q =>
          rw [hkey'] at hcovers
          exact hcovers.2.symm.trans hp
        | refund q a raw =>
          rw [hkey'] at hcovers
          cases hkey.symm.trans hcovers
      have hmem : j' ∈ db.journalsOf p :=
        List.mem_filter.mpr ⟨hj', decide_eq_true hpayment⟩
      rw [hnojournal] at hmem
      cases hmem
    · rw [hnone]
      simp
  | @refunded t j _ a raw hstatus hp htype ht hleft hkey hfree hj hjkey =>
    refine hrows.concat_journal htransactions hp hjournals (by rw [hjkey]; rfl) hj ?_ ?_ ?_ ht
    · rw [hjkey]
      exact hkey
    · refine List.filter_eq_nil_iff.mpr fun j' hj' hcovers => ?_
      have hcovers := of_decide_eq_true hcovers
      cases hkey' : j'.idempotencyKey with
      | capture q =>
        rw [hkey'] at hcovers
        cases htype.symm.trans hcovers.1
      | refund q a' raw' =>
        rw [hkey'] at hcovers
        obtain ⟨rfl, rfl, hraw⟩ := TransactionKey.refund.inj (hkey.symm.trans hcovers)
        have hmem : j' ∈ db.journalsOf p :=
          List.mem_filter.mpr ⟨hj', decide_eq_true (by rw [hkey']; rfl)⟩
        obtain ⟨t', ht', htkey, -⟩ := hrows.keyed j' hmem _ _ hkey'
        exact hfree t' ht' (htkey.trans hcovers.symm)
    · intro t' ht' hcovers
      rw [hjkey] at hcovers
      exact hfree t' (List.mem_filter.mp ht').1 (hcovers.trans hkey.symm)

/-- A refund row that is not posted leaves the sums alone. -/
lemma Refundable.concat (h : Refundable p db before) {t : Transaction}
    (htransactions : db'.transactions.rows = db.transactions.rows ++ [t]) (hp : t.paymentId = p)
    (htype : t.type = .refund) (ht : t.status ≠ .posted)
    (hleft : t.amount.units ≤ left db p) (hstatus : status ∈ refundables ∨
      status = .unknownExternalOutcome) (hrefunded : status ≠ .refunded)
    (hpending : status ∈ refundables → t.status ≠ .pending) : Phase p db' status := by
  have hsum : ∀ type,
      PaymentLifecycle.postedSum db' p type = PaymentLifecycle.postedSum db p type := by
    intro type
    rw [postedSum_concat htransactions, if_neg fun hposted => ht hposted.2.2, Nat.add_zero]
  have hof := transactionsOf_concat htransactions hp
  -- something is left, so the sums differ
  have hlt :
      PaymentLifecycle.postedSum db p .refund < PaymentLifecycle.postedSum db p .capture := by
    have hpos := t.amount.units_cast_pos
    rw [left] at hleft
    have hlt : (PaymentLifecycle.postedSum db p .refund : ℚ) <
        PaymentLifecycle.postedSum db p .capture := by linarith
    exact_mod_cast hlt
  refine .captured hstatus (fun t' ht' => ?_) (fun hs t' ht' => ?_) ?_ ?_ ?_
  · rw [hof] at ht'
    rcases List.mem_append.mp ht' with hold | hnew
    · exact h.void t' hold
    · rw [List.mem_singleton.mp hnew, htype]
      decide
  · rw [hof] at ht'
    rcases List.mem_append.mp ht' with hold | hnew
    · exact h.pending t' hold
    · rw [List.mem_singleton.mp hnew]
      exact hpending hs
  · rw [hsum]
    exact h.pos
  · rw [hsum, hsum]
    exact h.le
  · rw [hsum, hsum]
    exact ⟨fun heq => absurd heq hrefunded, fun heq => absurd heq hlt.ne⟩

/-- A change leads from a phase to a phase. -/
lemma Change.phase (h : Change db p before status ts js) (hphase : Phase p db before)
    (hadds : Adds p status ts js db db') : Phase p db' status := by
  obtain ⟨-, htransactions, -⟩ := hadds
  cases h with
  | unanswered =>
    obtain ⟨hnone, -⟩ := hphase.of_authorized
    refine .closed ⟨by simp, by decide⟩ fun t ht => ?_
    rw [transactionsOf_congr (by simpa using htransactions), hnone] at ht
    cases ht
  | @declined t _ hp ht hstatus =>
    obtain ⟨hnone, -⟩ := hphase.of_authorized
    refine .closed ?_ fun t' ht' hposted => ?_
    · rcases hstatus with rfl | rfl
      · exact ⟨by simp, by decide⟩
      · exact ⟨by simp, by decide⟩
    · rw [transactionsOf_concat htransactions hp, hnone] at ht'
      obtain rfl : t' = t := by simpa using ht'
      cases ht.symm.trans hposted
  | @voided t hp htype ht =>
    obtain ⟨hnone, -⟩ := hphase.of_authorized
    refine .closed ⟨by simp, by decide⟩ fun t' ht' hposted => ?_
    rw [transactionsOf_concat htransactions hp, hnone] at ht'
    obtain rfl : t' = t := by simpa using ht'
    exact htype
  | @captured t j hp htype ht hkey hj hjkey =>
    obtain ⟨hnone, -⟩ := hphase.of_authorized
    have hof : db'.transactionsOf p = [t] := by
      rw [transactionsOf_concat htransactions hp, hnone]
      rfl
    have hcaptured : PaymentLifecycle.postedSum db' p .capture = t.amount.units := by
      rw [postedSum_concat htransactions, if_pos ⟨hp, htype, ht⟩, postedSum_eq_zero, Nat.zero_add]
      rw [hnone]
      simp
    have hrefunded : PaymentLifecycle.postedSum db' p .refund = 0 := by
      refine postedSum_eq_zero fun t' ht' _ => ?_
      rw [hof] at ht'
      obtain rfl := List.mem_singleton.mp ht'
      rw [htype]
      decide
    have hpos := t.amount.pos
    refine .captured (.inl (by decide)) (fun t' ht' => ?_) (fun _ t' ht' => ?_) ?_ ?_ ?_
    · rw [hof] at ht'
      rw [List.mem_singleton.mp ht', htype]
      decide
    · rw [hof] at ht'
      rw [List.mem_singleton.mp ht', ht]
      decide
    · omega
    · omega
    · rw [hcaptured, hrefunded]
      constructor
      · intro heq
        cases heq
      · intro heq
        omega
  | refundUnanswered hstatus hp htype ht hleft =>
    exact (hphase.of_refundable hstatus).concat htransactions hp htype (by rw [ht]; decide) hleft
      (.inr rfl) (by decide) fun hrefundable => absurd hrefundable (by decide)
  | refundDeclined hstatus hp htype ht hleft =>
    exact (hphase.of_refundable hstatus).concat htransactions hp htype (by rw [ht]; decide) hleft
      (.inl (by decide)) (by decide) fun _ => by rw [ht]; decide
  | @refunded t j _ a raw hstatus hp htype ht hleft hkey hfree hj hjkey =>
    obtain ⟨hvoid, hpending, hpos, hle, -⟩ := hphase.of_refundable hstatus
    have hof := transactionsOf_concat htransactions hp
    have hcaptured : PaymentLifecycle.postedSum db' p .capture =
        PaymentLifecycle.postedSum db p .capture := by
      rw [postedSum_concat htransactions, if_neg, Nat.add_zero]
      rintro ⟨-, hcapture, -⟩
      cases htype.symm.trans hcapture
    have hrefunded : PaymentLifecycle.postedSum db' p .refund =
        PaymentLifecycle.postedSum db p .refund + t.amount.units := by
      rw [postedSum_concat htransactions, if_pos ⟨hp, htype, ht⟩]
    have hleft' : PaymentLifecycle.postedSum db p .refund + t.amount.units ≤
        PaymentLifecycle.postedSum db p .capture := by
      rw [left] at hleft
      have hcast : (PaymentLifecycle.postedSum db p .refund : ℚ) + t.amount.units ≤
          PaymentLifecycle.postedSum db p .capture := by linarith
      exact_mod_cast hcast
    have hzero : left db p - t.amount.units = 0 ↔
        PaymentLifecycle.postedSum db p .refund + t.amount.units =
          PaymentLifecycle.postedSum db p .capture := by
      rw [left, sub_sub, sub_eq_zero]
      constructor
      · intro heq
        exact_mod_cast heq.symm
      · intro heq
        exact_mod_cast heq.symm
    refine .captured (.inl ?_) (fun t' ht' => ?_) (fun _ t' ht' => ?_) ?_ ?_ ?_
    · split_ifs <;> decide
    · rw [hof] at ht'
      rcases List.mem_append.mp ht' with hold | hnew
      · exact hvoid t' hold
      · rw [List.mem_singleton.mp hnew, htype]
        decide
    · rw [hof] at ht'
      rcases List.mem_append.mp ht' with hold | hnew
      · exact hpending t' hold
      · rw [List.mem_singleton.mp hnew, ht]
        decide
    · rwa [hcaptured]
    · rwa [hcaptured, hrefunded]
    · rw [hcaptured, hrefunded, ← hzero]
      split_ifs with hnothing
      · simp [hnothing]
      · simp [hnothing]

end Step

/-! ### Runs -/

/-- What a call that has asked the provider does with the answer. -/
lemma answered_changes {p : PaymentId} {db db' : Db} (h : Kept p db) {c : LifecycleCall}
    {call : ProviderCall} {answered : ProviderOutcome → Except Error (PaymentStatus × Db)}
    (hprogress : c.progress db p = .ok (.calling call answered)) {outcome : ProviderOutcome}
    {answer : PaymentStatus} (hanswer : answered outcome = .ok (answer, db')) :
    ∃ payment status ts js, db.payments.get? p = some payment ∧
      Change db p payment.status status ts js ∧ Adds p status ts js db db' ∧
      Reflects c p outcome ts js := by
  obtain ⟨payment, hp, hphase⟩ := h.phase
  refine ⟨payment, ?_⟩
  cases c with
  | capture amount currency accounts =>
    rcases PaymentLifecycle.capture_eq_ok hprogress with hreturned |
      ⟨payment', _, _, _, hp', hauthorized, -⟩
    · cases hreturned
    obtain rfl := Option.some.inj (hp.symm.trans hp')
    rw [hauthorized] at hphase ⊢
    obtain ⟨htransactions, hjournals⟩ := hphase.of_authorized
    obtain ⟨status, ts, js, hchange⟩ :=
      capture_changes h.sound hp htransactions hjournals hprogress hanswer
    exact ⟨status, ts, js, hp, hchange⟩
  | void amount currency =>
    rcases PaymentLifecycle.void_eq_ok hprogress with hreturned |
      ⟨payment', _, _, _, hp', hauthorized, -⟩
    · cases hreturned
    obtain rfl := Option.some.inj (hp.symm.trans hp')
    rw [hauthorized] at hphase ⊢
    obtain ⟨htransactions, -⟩ := hphase.of_authorized
    obtain ⟨status, ts, js, hchange⟩ := void_changes h.sound hp htransactions hprogress hanswer
    exact ⟨status, ts, js, hp, hchange⟩
  | refund amount currency accounts =>
    rcases PaymentLifecycle.refund_eq_ok hprogress with ⟨_, hreturned, -⟩ |
      ⟨payment', _, _, _, _, _, hp', hstatus, -⟩
    · cases hreturned
    obtain rfl := Option.some.inj (hp.symm.trans hp')
    obtain ⟨status, ts, js, hchange⟩ := refund_changes h.sound hp
      (hphase.of_refundable hstatus).pending h.rows.keyed hprogress hanswer
    exact ⟨status, ts, js, hp, hchange⟩

/-- What a committed call does. -/
lemma run_changes {p : PaymentId} {db db' : Db} (h : Kept p db) {c : LifecycleCall}
    {outcome : ProviderOutcome} {answer : PaymentStatus}
    (hrun : c.run db p outcome = .ok (answer, db')) :
    db' = db ∨ ∃ payment status ts js, db.payments.get? p = some payment ∧
      Change db p payment.status status ts js ∧ Adds p status ts js db db' := by
  obtain ⟨progress, hprogress, hanswer⟩ := Except.bind_eq_ok.mp hrun
  cases progress with
  | returned status db'' =>
    obtain rfl := LifecycleCall.progress_returned hprogress
    obtain ⟨-, rfl⟩ := by simpa [Progress.answer] using hanswer
    exact .inl rfl
  | calling call answered =>
    obtain ⟨payment, status, ts, js, hp, hchange, hadds, -⟩ := answered_changes h hprogress hanswer
    exact .inr ⟨payment, status, ts, js, hp, hchange, hadds⟩

lemma Kept.step {p : PaymentId} {db : Db} (h : Kept p db) (x : LifecycleAttempt) :
    Kept p (x.step p db) := by
  rw [LifecycleAttempt.step]
  split_ifs
  · cases hrun : x.call.run db p x.outcome with
    | error e => exact h
    | ok answer =>
      obtain ⟨status, db'⟩ := answer
      show Kept p db'
      have hsound := LifecycleCall.run_sound h.sound hrun
      rcases run_changes h hrun with rfl | ⟨payment, status, ts, js, hp, hchange, hadds⟩
      · exact h
      · obtain ⟨payment', hp', hphase⟩ := h.phase
        obtain rfl := Option.some.inj (hp.symm.trans hp')
        obtain ⟨payment', hp', rfl⟩ := hadds.payment
        exact ⟨hsound, hchange.rows h.rows hphase hadds, payment', hp',
          hchange.phase hphase hadds⟩
  · exact h

/-- Nothing on the books, or one capture with its journal. -/
inductive Begins (p : PaymentId) (payment : Payment) (db : Db) : Prop where
  | authorized (hstatus : payment.status = .authorized) (htransactions : db.transactionsOf p = [])
      (hjournals : db.journalsOf p = [])
  | captured {t j} (hstatus : payment.status = .succeeded)
      (htransactions : db.transactionsOf p = [t]) (htype : t.type = .capture)
      (hposted : t.status = .posted) (hjournals : db.journalsOf p = [j])
      (hkey : j.idempotencyKey = .capture p) (hj : Records j t)

lemma Begins.kept {p : PaymentId} {payment : Payment} {db : Db} (h : Begins p payment db)
    (hs : db.Sound) (hp : db.payments.get? p = some payment) : Kept p db := by
  cases h with
  | authorized hstatus htransactions hjournals =>
    refine ⟨hs, ⟨fun t ht => ?_, fun j hj => ?_⟩, payment, hp,
      .authorized hstatus htransactions hjournals⟩
    · rw [htransactions] at ht
      cases ht
    · rw [hjournals] at hj
      cases hj
  | @captured t j hstatus htransactions htype hposted hjournals hkey hj =>
    obtain ⟨ht, htp⟩ : t ∈ db.transactions.rows ∧ t.paymentId = p := by
      have hmem : t ∈ db.transactionsOf p := by simp [htransactions]
      exact ⟨(List.mem_filter.mp hmem).1, of_decide_eq_true (List.mem_filter.mp hmem).2⟩
    -- the journals that cover the capture are journals of the payment
    have hcovers : ∀ j' : LedgerJournal, Covers t j'.idempotencyKey →
        j'.idempotencyKey.paymentId = p := by
      intro j' hcovers
      cases hkey' : j'.idempotencyKey with
      | capture q =>
        rw [hkey'] at hcovers
        exact hcovers.2.symm.trans htp
      | refund q a raw =>
        rw [hkey'] at hcovers
        have hfiled := (hs.transaction t ht).1.type
        rw [show t.idempotencyKey = _ from hcovers, htype] at hfiled
        cases hfiled
    have hfor : journalsFor db t = [j] := by
      have hof : journalsFor db t =
          (db.journalsOf p).filter fun j => decide (Covers t j.idempotencyKey) := by
        rw [journalsFor, Db.journalsOf, List.filter_filter]
        refine List.filter_congr fun j' _ => ?_
        by_cases hj' : Covers t j'.idempotencyKey
        · simp [hj', hcovers j' hj']
        · simp [hj']
      rw [hof, hjournals]
      simp [hkey, Covers, htype, htp]
    have hcaptured : PaymentLifecycle.postedSum db p .capture = t.amount.units := by
      rw [postedSum_eq, htransactions]
      simp [htype, hposted]
    have hrefunded : PaymentLifecycle.postedSum db p .refund = 0 := by
      rw [postedSum_eq, htransactions]
      simp [htype]
    have hpos := t.amount.pos
    refine ⟨hs, ⟨fun t' ht' _ _ => ?_, fun j' hj' a raw hraw => ?_⟩, payment, hp,
      .captured (.inl (by rw [hstatus]; decide)) (fun t' ht' => ?_) (fun _ t' ht' => ?_) ?_ ?_ ?_⟩
    · rw [htransactions] at ht'
      obtain rfl := List.mem_singleton.mp ht'
      exact ⟨j, hfor, hj⟩
    · rw [hjournals] at hj'
      obtain rfl := List.mem_singleton.mp hj'
      cases hkey.symm.trans hraw
    · rw [htransactions] at ht'
      rw [List.mem_singleton.mp ht', htype]
      decide
    · rw [htransactions] at ht'
      rw [List.mem_singleton.mp ht', hposted]
      decide
    · omega
    · omega
    · rw [hcaptured, hrefunded, hstatus]
      constructor
      · intro heq
        cases heq
      · intro heq
        omega

/-- Whatever is called, and whether it commits or not: a payment is never both captured and voided,
its refunds stay within its captures, it is REFUNDED exactly when nothing of a capture is left, and
every posted capture and refund has one journal that balances. -/
theorem run_kept {p : PaymentId} {payment : Payment} {db : Db} (hs : db.Sound)
    (hp : db.payments.get? p = some payment) (h : Begins p payment db)
    (xs : List LifecycleAttempt) :
    let after := Machine.run (LifecycleAttempt.step p) db xs
    ¬ ((∃ t ∈ after.transactionsOf p, t.type = .capture ∧ t.status = .posted) ∧
        ∃ t ∈ after.transactionsOf p, t.type = .void ∧ t.status = .posted) ∧
      PaymentLifecycle.postedSum after p .refund ≤ PaymentLifecycle.postedSum after p .capture ∧
      (∃ payment', after.payments.get? p = some payment' ∧ (payment'.status = .refunded ↔
        PaymentLifecycle.postedSum after p .refund = PaymentLifecycle.postedSum after p .capture ∧
          0 < PaymentLifecycle.postedSum after p .capture)) ∧
      ∀ t ∈ after.transactionsOf p, t.status = .posted → t.type = .capture ∨ t.type = .refund →
        ∃ j, journalsFor after t = [j] ∧ Records j t := by
  intro after
  obtain ⟨-, hrows, payment', hp', hphase⟩ : Kept p after :=
    Machine.run_invariant (I := Kept p) (fun db x h => h.step x) (h.kept hs hp) xs
  have hrecorded : ∀ t ∈ after.transactionsOf p, t.status = .posted →
      t.type = .capture ∨ t.type = .refund → ∃ j, journalsFor after t = [j] ∧ Records j t := by
    intro t ht hposted htype
    refine hrows.recorded t ht hposted ?_
    rcases htype with htype | htype <;> rw [htype] <;> decide
  have hnothing : payment'.status ∉ refundables →
      (∀ t ∈ after.transactionsOf p, t.status = .posted → t.type = .void) →
      ¬ ((∃ t ∈ after.transactionsOf p, t.type = .capture ∧ t.status = .posted) ∧
        ∃ t ∈ after.transactionsOf p, t.type = .void ∧ t.status = .posted) ∧
      PaymentLifecycle.postedSum after p .refund ≤ PaymentLifecycle.postedSum after p .capture ∧
      (payment'.status = .refunded ↔
        PaymentLifecycle.postedSum after p .refund = PaymentLifecycle.postedSum after p .capture ∧
          0 < PaymentLifecycle.postedSum after p .capture) := by
    intro hstatus hvoid
    have hzero : ∀ type, type ≠ .void → PaymentLifecycle.postedSum after p type = 0 := by
      intro type htype
      refine postedSum_eq_zero fun t ht hposted heq => htype ?_
      rw [← heq]
      exact hvoid t ht hposted
    rw [hzero .capture (by decide), hzero .refund (by decide)]
    refine ⟨?_, le_rfl, fun heq => ?_, fun heq => absurd heq.2 (lt_irrefl 0)⟩
    · rintro ⟨⟨t, ht, htype, hposted⟩, -⟩
      cases htype.symm.trans (hvoid t ht hposted)
    · rw [heq] at hstatus
      exact absurd (by decide) hstatus
  cases hphase with
  | authorized hstatus htransactions hjournals =>
    obtain ⟨hapart, hle, hrefunded⟩ := hnothing (by rw [hstatus]; decide) (by simp [htransactions])
    exact ⟨hapart, hle, ⟨payment', hp', hrefunded⟩, hrecorded⟩
  | closed hstatus hvoid =>
    obtain ⟨hapart, hle, hrefunded⟩ := hnothing hstatus.2 hvoid
    exact ⟨hapart, hle, ⟨payment', hp', hrefunded⟩, hrecorded⟩
  | captured hstatus hvoid hpending hpos hle hrefunded =>
    refine ⟨?_, hle, ⟨payment', hp', hrefunded.trans (iff_self_and.mpr fun _ => hpos)⟩, hrecorded⟩
    rintro ⟨-, t, ht, htype, -⟩
    exact hvoid t ht htype

/-- A capture, a refund that is rolled back, two refunds that together are the capture, and a void
that comes too late. -/
def samples : List LifecycleAttempt :=
  [⟨.capture ⟨25, 0⟩ "usd" ⟨0, 1⟩, .succeeded, true⟩,
    ⟨.refund ⟨20, 0⟩ "USD" ⟨0, 1⟩, .succeeded, false⟩,
    ⟨.refund ⟨10, 0⟩ "USD" ⟨0, 1⟩, .succeeded, true⟩,
    ⟨.refund ⟨150, 1⟩ "USD" ⟨0, 1⟩, .succeeded, true⟩, ⟨.void ⟨25, 0⟩ "USD", .succeeded, true⟩]

theorem run_kept_samples :
    let after := Machine.run (LifecycleAttempt.step 0) (.seeded .authorized none) samples
    (after.payments.get? 0).map (·.status) = some .refunded ∧
      PaymentLifecycle.postedSum after 0 .refund = PaymentLifecycle.postedSum after 0 .capture ∧
      ∀ t ∈ after.transactionsOf 0, t.status = .posted → t.type = .capture ∨ t.type = .refund →
        ∃ j, journalsFor after t = [j] ∧ Records j t := by
  intro after
  obtain ⟨payment, hp, hstatus⟩ : ∃ payment,
      (Db.seeded .authorized none).payments.get? 0 = some payment ∧
        payment.status = .authorized := ⟨_, rfl, rfl⟩
  obtain ⟨-, -, ⟨payment', hp', hrefunded⟩, hrecorded⟩ := run_kept (Db.seeded_sound _ _) hp
    (.authorized hstatus rfl rfl) samples
  have hdone : (after.payments.get? 0).map (·.status) = some .refunded := by decide +kernel
  refine ⟨hdone, (hrefunded.mp ?_).1, hrecorded⟩
  rw [hp'] at hdone
  exact Option.some.inj hdone

end Books

end AgentPay
