import AgentPay.Repositories
import AgentPay.Ledger

/-!
# The payment orchestrator

`orchestrator.py`: a payment is prepared in one transaction and finalized in a later one; the
provider is called in between.
-/

namespace AgentPay

open Support

/-- `provider.ProviderOutcome` -/
inductive ProviderOutcome where
  | succeeded
  | failed
  | unknown
  deriving DecidableEq, Repr

/-- The status an outcome decides. -/
def ProviderOutcome.paymentStatus : ProviderOutcome → PaymentStatus
  | .succeeded => .succeeded
  | .failed    => .failed
  | .unknown   => .unknownExternalOutcome

/-- `UPDATE transactions SET status='POSTED' WHERE id=…` -/
def postTransaction (db : Db) (transactionId : TransactionId) : Db :=
  { db with
    transactions := db.transactions.update transactionId (fun t => { t with status := .posted })
      fun _ => rfl }

/-- A payment that `finalize` and the provider events may still decide. -/
def PaymentStatus.Executable (status : PaymentStatus) : Prop :=
  status = .processing ∨ status = .unknownExternalOutcome

instance : DecidablePred PaymentStatus.Executable :=
  fun _ => inferInstanceAs (Decidable (_ ∨ _))

namespace PaymentOrchestrator

/-! ### Prepare -/

/-- `UPDATE payment_requests SET budget_reservation_id=…` -/
def linkReservation (db : Db) (requestId : RequestId) (reservationId : ReservationId) : Db :=
  { db with
    paymentRequests := db.paymentRequests.update requestId
      (fun r => { r with budgetReservationId := some reservationId }) fun _ => rfl }

/-- `prepare`. When the budget refuses, the writes that mark the payment FAILED are undone with
the rest of the transaction by the exception that follows them. -/
def prepare (db : Db) (paymentId : PaymentId) (requestId : RequestId) (budgetId : BudgetId)
    (amount : Decimal) (currency : String) : Except Error (ReservationId × Db) :=
  match db.payments.get? paymentId, db.paymentRequests.get? requestId with
  | some payment, some request =>
    if payment.paymentRequestId ≠ requestId then
      .error (.valueError "payment and payment request binding is invalid")
    else if ((request.authorizationEvidenceId.bind (db.authorizationEvidence[·]?)).map
        (·.verificationStatus)) ≠ some .verified then
      .error (.permissionError "verified authorization evidence is required before execution")
    else if request.amount.toDecimal.units ≠ amount.units ∨
        normCurrency request.currency ≠ upper currency then
      .error (.valueError "execution amount/currency does not match payment intent")
    else if payment.status ∈ [.succeeded, .failed, .cancelled, .voided, .refunded] then
      .error (.valueError "payment is already terminal")
    else do
      match ← BudgetRepository.reserve db budgetId requestId amount with
      | (none, _) => throw (.valueError "budget insufficient")
      | (some reservationId, db) =>
        let db := linkReservation db requestId reservationId
        let db := PaymentRepository.updateStatus db paymentId .processing none
        return (reservationId, enqueue db (.paymentStarted paymentId reservationId))
  | _, _ => .error (.valueError "payment and payment request binding is invalid")

/-! ### Finalize -/

/-- `UPDATE provider_operations … WHERE payment_id=… AND operation_type='CHARGE'` -/
def updateCharges (db : Db) (paymentId : PaymentId) (f : ProviderOperation → ProviderOperation)
    (hf : ∀ o, (f o).key = o.key) : Db :=
  { db with
    providerOperations := db.providerOperations.updateWhere
      (fun o => decide (o.paymentId = paymentId) && decide (o.operationType = .charge)) f hf }

/-- The row a definitive outcome writes: `completed_at` is set, a missing reference is kept. -/
def decided (status : OperationStatus) (providerReference : Option String)
    (o : ProviderOperation) : ProviderOperation :=
  { o with status, providerReference := providerReference <|> o.providerReference,
           completed := true }

/-- The UNKNOWN branch: the operation keeps the reference it had. -/
def finalizeUnknown (db : Db) (paymentId : PaymentId) (reservationId : ReservationId)
    (providerReference : Option String) : Db :=
  let db := updateCharges db paymentId (fun o => { o with status := .unknown }) fun _ => rfl
  let db := PaymentRepository.updateStatus db paymentId .unknownExternalOutcome providerReference
  enqueue db (.paymentOutcomeUnknown paymentId reservationId)

/-- The FAILED branch. -/
def finalizeFailed (db : Db) (paymentId : PaymentId) (reservationId : ReservationId)
    (providerReference : Option String) : Except Error Db := do
  let db := updateCharges db paymentId (decided .failed providerReference) fun _ => rfl
  let db ← BudgetRepository.release db reservationId
  let db := PaymentRepository.updateStatus db paymentId .failed providerReference
  return enqueue db (.paymentFailed paymentId (.provider reservationId))

/-- The capture row: `ON CONFLICT (idempotency_key) DO UPDATE SET status='POSTED'`. -/
def upsertCapture (db : Db) (paymentId : PaymentId) (amount : Decimal) (currency : String) :
    Except Error (TransactionId × Db) := do
  let stored ← Amount.store amount
  match db.transactions.insert?
      { paymentId, type := .capture, status := .posted, amount := stored, currency,
        externalReference := none, idempotencyKey := .capture paymentId } with
  | some transactions =>
    return (db.transactions.nextId, { db with transactions })
  | none =>
    match db.transactions.idOf? (.capture paymentId) with
    | none => throw .uniqueViolation
    | some id => return (id, postTransaction db id)

/-- The SUCCEEDED branch. -/
def finalizeSucceeded (db : Db) (paymentId : PaymentId) (reservationId : ReservationId)
    (amount : Decimal) (currency : String) (accounts : LedgerAccounts)
    (providerReference : Option String) : Except Error Db := do
  let db := updateCharges db paymentId (decided .succeeded providerReference) fun _ => rfl
  let db ← BudgetRepository.consume db reservationId
  let (transactionId, db) ← upsertCapture db paymentId amount currency
  let (_, db) ← postJournal db currency (.transaction transactionId) (.capture paymentId)
    (transfer accounts.customer accounts.clearing amount currency)
  let db := PaymentRepository.updateStatus db paymentId .succeeded providerReference
  return enqueue db (.paymentSucceeded paymentId amount currency)

/-- `finalize` -/
def finalize (db : Db) (paymentId : PaymentId) (requestId : RequestId)
    (reservationId : ReservationId) (amount : Decimal) (currency : String)
    (accounts : LedgerAccounts) (outcome : ProviderOutcome) (providerReference : Option String) :
    Except Error (PaymentStatus × Db) :=
  match db.payments.get? paymentId with
  | none => .error (.valueError "payment and payment request binding is invalid")
  | some row =>
    if row.paymentRequestId ≠ requestId then
      .error (.valueError "payment and payment request binding is invalid")
    else if row.amount.toDecimal.units ≠ amount.units ∨
        normCurrency row.currency ≠ upper currency then
      .error (.valueError "finalization amount/currency does not match payment")
    else if row.status = .succeeded ∧ outcome = .succeeded then .ok (.succeeded, db)
    else if row.status = .failed ∧ outcome = .failed then .ok (.failed, db)
    else if row.status = .unknownExternalOutcome ∧ outcome = .unknown then
      .ok (.unknownExternalOutcome, db)
    else if ¬ row.status.Executable then
      .error (.valueError "payment is not in an executable finalization state")
    else
      match outcome with
      | .unknown =>
        .ok (.unknownExternalOutcome,
          finalizeUnknown db paymentId reservationId providerReference)
      | .failed => do
        return (.failed, ← finalizeFailed db paymentId reservationId providerReference)
      | .succeeded => do
        return (.succeeded,
          ← finalizeSucceeded db paymentId reservationId amount currency accounts
            providerReference)

end PaymentOrchestrator

end AgentPay
