import AgentPay.Worker

/-!
# Capture, void and refund

`lifecycle.py`. Each operation calls the provider inside its own database transaction: up to the
call it is a function of the database, and what follows is a function of the provider's answer.
-/

namespace AgentPay

open Support

/-- A lifecycle operation as far as it gets without the provider. `answered` continues from the
rows that the transaction has written so far. -/
inductive Progress where
  | returned (status : PaymentStatus) (db : Db)
  | calling (call : ProviderCall)
      (answered : ProviderOutcome → Except Error (PaymentStatus × Db))

/-- The operation with the provider's answer, if it asks for one. -/
def Progress.answer (outcome : ProviderOutcome) : Progress → Except Error (PaymentStatus × Db)
  | .returned status db  => .ok (status, db)
  | .calling _ answered  => answered outcome

/-- The call the operation makes, if it makes one. -/
def Progress.call? : Progress → Option ProviderCall
  | .returned _ _   => none
  | .calling call _ => some call

namespace PaymentLifecycle

/-- `_amount_minor` -/
def amountMinor (amount : Decimal) : Except Error ℤ :=
  if amount.units ≤ 0 then .error (.valueError "operation amount must be positive")
  else if (amount.coeff * 100) % 10 ^ amount.scale ≠ 0 then
    .error (.valueError "reference payment rails support at most two decimal places")
  else .ok (AgentPay.amountMinor amount)

/-- `_validate_operation_amount`: the normalised currency. -/
def validateOperationAmount (amount : Decimal) (currency : String) (payment : Payment) :
    Except Error String :=
  if amount.units ≤ 0 then .error (.valueError "operation amount must be positive")
  else if amount.units ≠ payment.amount.toDecimal.units then
    .error (.valueError "operation amount does not match payment amount")
  else if normCurrency currency ≠ normCurrency payment.currency then
    .error (.valueError "operation currency does not match payment currency")
  else .ok (normCurrency currency)

/-- `_validate_refund_amount` -/
def validateRefundAmount (amount : Decimal) (currency : String) (payment : Payment) :
    Except Error String :=
  if amount.units ≤ 0 then .error (.valueError "operation amount must be positive")
  else if normCurrency currency ≠ normCurrency payment.currency then
    .error (.valueError "operation currency does not match payment currency")
  else .ok (normCurrency currency)

/-- `_refund_replay_status` -/
def refundReplayStatus (status : TransactionStatus) (refundable : ℚ) : Option PaymentStatus :=
  match status with
  | .posted => if refundable = 0 then some .refunded else some .succeeded
  | .failed => some .refundFailed
  | .pending => none

/-- The row `_create_transaction` inserts. -/
def newTransaction (paymentId : PaymentId) (type : TransactionType) (amount : Amount)
    (currency : String) (key : TransactionKey) (status : TransactionStatus) : Transaction :=
  { paymentId, type, status, amount, currency, externalReference := none, idempotencyKey := key }

/-- `_create_transaction` -/
def createTransaction (db : Db) (paymentId : PaymentId) (type : TransactionType)
    (amount : Decimal) (currency : String) (key : TransactionKey) (status : TransactionStatus) :
    Except Error (TransactionId × Db) :=
  match db.transactions.idOf? key with
  | some id => .ok (id, db)
  | none => do
    let stored ← Amount.store amount
    match db.transactions.insert? (newTransaction paymentId type stored currency key status) with
    | none => throw .uniqueViolation
    | some transactions => return (db.transactions.nextId, { db with transactions })

/-- `UPDATE transactions SET status=… WHERE id=…` -/
def setTransactionStatus (db : Db) (id : TransactionId) (status : TransactionStatus) : Db :=
  { db with
    transactions := db.transactions.update id (fun t => { t with status }) fun _ => rfl }

/-- `SUM(amount)` over the POSTED transactions of one type. -/
def postedSum (db : Db) (paymentId : PaymentId) (type : TransactionType) : ℕ :=
  (db.transactions.rows.map fun t =>
    if t.paymentId = paymentId ∧ t.type = type ∧ t.status = .posted then t.amount.units
    else 0).sum

/-! ### Capture -/

/-- `capture`, from the provider's answer on. -/
def captureAnswered (db : Db) (paymentId : PaymentId) (amount : Decimal) (currency : String)
    (accounts : LedgerAccounts) : ProviderOutcome → Except Error (PaymentStatus × Db)
  | .unknown =>
    .ok (.unknownExternalOutcome,
      PaymentRepository.updateStatus db paymentId .unknownExternalOutcome none)
  | .failed => do
    let db := PaymentRepository.updateStatus db paymentId .failed none
    let (_, db) ← createTransaction db paymentId .capture amount currency
      (.captureFailed paymentId) .failed
    return (.failed, db)
  | .succeeded => do
    let (transactionId, db) ← createTransaction db paymentId .capture amount currency
      (.capture paymentId) .posted
    let (_, db) ← postJournal db currency (.transaction transactionId) (.capture paymentId)
      (transfer accounts.customer accounts.clearing amount currency)
    return (.succeeded, PaymentRepository.updateStatus db paymentId .succeeded none)

/-- `capture` -/
def capture (db : Db) (paymentId : PaymentId) (amount : Decimal) (currency : String)
    (accounts : LedgerAccounts) : Except Error Progress :=
  match db.payments.get? paymentId with
  | none => .error (.valueError "payment not found")
  | some row =>
    if row.status = .succeeded then do
      let _ ← validateOperationAmount amount currency row
      return .returned .succeeded db
    else if row.status ≠ .authorized then
      .error (.valueError "payment is not authorized for capture")
    else do
      let currency ← validateOperationAmount amount currency row
      let (_, db) ← PaymentRepository.createProviderOperation db paymentId .capture
        (.capture paymentId)
      let minor ← amountMinor amount
      return .calling ⟨.capture, paymentId, minor, currency, .capture paymentId⟩
        (captureAnswered db paymentId amount currency accounts)

/-! ### Void -/

/-- `void`, from the provider's answer on. -/
def voidAnswered (db : Db) (paymentId : PaymentId) (amount : Decimal) (currency : String) :
    ProviderOutcome → Except Error (PaymentStatus × Db)
  | .unknown =>
    .ok (.unknownExternalOutcome,
      PaymentRepository.updateStatus db paymentId .unknownExternalOutcome none)
  | .failed => do
    let db := PaymentRepository.updateStatus db paymentId .voidFailed none
    let (_, db) ← createTransaction db paymentId .void amount currency (.voidFailed paymentId)
      .failed
    return (.voidFailed, db)
  | .succeeded => do
    let (_, db) ← createTransaction db paymentId .void amount currency (.void paymentId) .posted
    return (.voided, PaymentRepository.updateStatus db paymentId .voided none)

/-- `void` -/
def void (db : Db) (paymentId : PaymentId) (amount : Decimal) (currency : String) :
    Except Error Progress :=
  match db.payments.get? paymentId with
  | none => .error (.valueError "payment not found")
  | some row =>
    if row.status = .voided then do
      let _ ← validateOperationAmount amount currency row
      return .returned .voided db
    else if row.status ≠ .authorized then
      .error (.valueError "only an authorized payment can be voided")
    else do
      let currency ← validateOperationAmount amount currency row
      let db := PaymentRepository.updateStatus db paymentId .voidRequested none
      let (_, db) ← PaymentRepository.createProviderOperation db paymentId .void (.void paymentId)
      let minor ← amountMinor amount
      return .calling ⟨.void, paymentId, minor, currency, .void paymentId⟩
        (voidAnswered db paymentId amount currency)

/-! ### Refund -/

/-- `refund`, from the provider's answer on; `rawCurrency` is the spelling the keys of the
operation and of the journal were built with. -/
def refundAnswered (db : Db) (paymentId : PaymentId) (refundId : TransactionId)
    (amount : Decimal) (currency rawCurrency : String) (accounts : LedgerAccounts)
    (captured refunded : ℕ) : ProviderOutcome → Except Error (PaymentStatus × Db)
  | .unknown =>
    .ok (.unknownExternalOutcome,
      PaymentRepository.updateStatus db paymentId .unknownExternalOutcome none)
  | .failed =>
    .ok (.refundFailed,
      PaymentRepository.updateStatus (setTransactionStatus db refundId .failed) paymentId
        .refundFailed none)
  | .succeeded => do
    let db := setTransactionStatus db refundId .posted
    let (_, db) ← postJournal db currency (.transaction refundId)
      (.refund paymentId amount rawCurrency)
      (transfer accounts.clearing accounts.customer amount currency)
    let remaining : ℚ := captured - (refunded + amount.units)
    return (.refunded,
      PaymentRepository.updateStatus db paymentId
        (if remaining = 0 then .refunded else .succeeded) none)

/-- `refund` -/
def refund (db : Db) (paymentId : PaymentId) (amount : Decimal) (rawCurrency : String)
    (accounts : LedgerAccounts) : Except Error Progress :=
  match db.payments.get? paymentId with
  | none => .error (.valueError "payment not found")
  | some row =>
    if row.status ∉ [.succeeded, .refundFailed, .refunded] then
      .error (.valueError "only a captured payment can be refunded")
    else do
      let currency ← validateRefundAmount amount rawCurrency row
      let transactionKey := TransactionKey.refund paymentId amount currency
      let captured := postedSum db paymentId .capture
      let refunded := postedSum db paymentId .refund
      let refundable : ℚ := captured - refunded
      let replayed := (db.transactions.find? transactionKey).bind fun (_, existing) =>
        refundReplayStatus existing.status refundable
      match replayed with
      | some status => return .returned status db
      | none =>
        if refundable < amount.units then
          throw (.valueError "refund amount exceeds refundable captured amount")
        else
          let db := PaymentRepository.updateStatus db paymentId .refundProcessing none
          let key := OperationKey.refund paymentId amount rawCurrency
          let (_, db) ← PaymentRepository.createProviderOperation db paymentId .refund key
          let (refundId, db) ← createTransaction db paymentId .refund amount currency
            transactionKey .pending
          let minor ← amountMinor amount
          return .calling ⟨.refund, paymentId, minor, currency, key⟩
            (refundAnswered db paymentId refundId amount currency rawCurrency accounts captured
              refunded)

end PaymentLifecycle

/-! ### The endpoints -/

/-- `lifecycle_api.LifecycleAmount`: digits with at most four of them after the point, and three
characters of currency. -/
structure LifecycleAmount where
  digits : ℕ
  places : Fin 5
  currency : String
  iso : currency.length = 3
  deriving Repr

/-- `Decimal(amount.amount)` -/
def LifecycleAmount.amount (a : LifecycleAmount) : Decimal := ⟨a.digits, a.places⟩

/-- The operations of `lifecycle_api`. -/
inductive LifecycleOperation where
  | capture
  | void
  | refund
  deriving DecidableEq, Repr

/-- `except ValueError` -/
def conflictOnValueError {α : Type} : Except Error α → Except Error α
  | .error (.valueError message) => .error (.http 409 message)
  | result => result

/-- `_run` up to the provider call, for a caller that `_authenticate_payment` has let through. -/
def lifecycleRun (db : Db) (paymentId : PaymentId) (a : LifecycleAmount)
    (operation : LifecycleOperation) : Except Error Progress :=
  match ledgerAccounts db paymentId with
  | none => .error (.http 409 "ledger accounts are not configured")
  | some accounts =>
    conflictOnValueError <|
      match operation with
      | .capture => PaymentLifecycle.capture db paymentId a.amount (upper a.currency) accounts
      | .void => PaymentLifecycle.void db paymentId a.amount (upper a.currency)
      | .refund => PaymentLifecycle.refund db paymentId a.amount (upper a.currency) accounts

end AgentPay
