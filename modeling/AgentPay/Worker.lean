import AgentPay.Orchestrator

/-!
# The payment worker

`worker.process_one` in its separately committed phases: mark the payment PROCESSING, call the
provider unless its answer is already durable, finalize. `worker_runner.run_once` hands the
payment ids out and lets their row locks go before any of this runs.
-/

namespace AgentPay

open Support

/-- What the provider answers: an outcome and `reference_for` the key. -/
structure ProviderAnswer where
  outcome : ProviderOutcome
  reference : Option String
  deriving DecidableEq, Repr

/-- A call that leaves for the provider. -/
structure ProviderCall where
  operation : OperationType
  paymentId : PaymentId
  amountMinor : ℤ
  currency : String
  idempotencyKey : OperationKey
  deriving DecidableEq, Repr

/-- `int(amount * Decimal("100"))` -/
def amountMinor (amount : Decimal) : ℤ :=
  let minor := amount.coeff * 100
  minor.tdiv (10 ^ amount.scale)

/-- `execute_external` -/
def PaymentOrchestrator.executeExternal (paymentId : PaymentId) (amount : Decimal)
    (currency : String) : ProviderCall :=
  { operation := .charge, paymentId, amountMinor := amountMinor amount, currency,
    idempotencyKey := .charge paymentId }

/-- The answer a provider operation already records, `none` while it is PENDING. -/
def OperationStatus.outcome? : OperationStatus → Option ProviderOutcome
  | .pending   => none
  | .succeeded => some .succeeded
  | .failed    => some .failed
  | .unknown   => some .unknown

namespace Worker

/-- The local variables of a `process_one` call after its first phase. -/
structure Claim where
  paymentId : PaymentId
  requestId : RequestId
  reservationId : ReservationId
  amount : Amount
  currency : String
  accounts : LedgerAccounts
  deriving DecidableEq, Repr

/-- `pending_for_execution`: the oldest executable payments whose rows no other transaction has
locked. -/
def pendingForExecution (db : Db) (locked : List PaymentId) (limit : ℕ) : List PaymentId :=
  ((List.range db.payments.nextId).filter fun p =>
    match db.payments.get? p with
    | none => false
    | some payment =>
      payment.status = .processing && decide (p ∉ locked) &&
        ((db.paymentRequests.get? payment.paymentRequestId).bind (·.budgetReservationId)).isSome)
    |>.take limit

/-- The first phase. Its status write has no guard: any payment with a reservation is PROCESSING
afterwards. -/
def mark (db : Db) (paymentId : PaymentId) (accounts : LedgerAccounts) :
    Except Error (Claim × Db) := do
  match db.payments.get? paymentId with
  | none => throw (.valueError "payment not found")
  | some payment =>
    match db.paymentRequests.get? payment.paymentRequestId with
    | none => throw (.valueError "payment not found")
    | some request =>
      match request.budgetReservationId with
      | none => throw (.valueError "payment has no budget reservation")
      | some reservationId =>
        let (_, db) ← PaymentRepository.createProviderOperation db paymentId .charge
          (.charge paymentId)
        return (⟨paymentId, payment.paymentRequestId, reservationId, payment.amount,
            payment.currency, accounts⟩,
          PaymentRepository.updateStatus db paymentId .processing none)

/-- The durable answer of the newest charge of the payment. -/
def durable (db : Db) (paymentId : PaymentId) : Option ProviderAnswer := do
  let id ← lastIdx? (fun o : ProviderOperation =>
    decide (o.paymentId = paymentId) && decide (o.operationType = .charge))
    db.providerOperations.rows
  let o ← db.providerOperations.get? id
  let outcome ← o.status.outcome?
  return ⟨outcome, o.providerReference⟩

/-- The charge that `process_one` sends. -/
def Claim.charge (c : Claim) : ProviderCall :=
  { operation := .charge, paymentId := c.paymentId, amountMinor := amountMinor c.amount.toDecimal,
    currency := c.currency, idempotencyKey := .charge c.paymentId }

/-- The last phase. -/
def finalize (db : Db) (c : Claim) (answer : ProviderAnswer) : Except Error (PaymentStatus × Db) :=
  PaymentOrchestrator.finalize db c.paymentId c.requestId c.reservationId c.amount.toDecimal
    c.currency c.accounts answer.outcome answer.reference

end Worker

/-- `process_one` without an interruption, the provider answering `answer` when it is called. -/
def processOne (db : Db) (paymentId : PaymentId) (accounts : LedgerAccounts)
    (answer : ProviderAnswer) : Except Error (PaymentStatus × Db) := do
  let (claim, db) ← Worker.mark db paymentId accounts
  Worker.finalize db claim ((Worker.durable db paymentId).getD answer)

end AgentPay
