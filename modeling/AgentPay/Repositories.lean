import AgentPay.Schema

/-!
# Repositories

`repositories.py`: the payment rows, the provider operations and the budget counters. Every
function takes the state the transaction sees and returns the state it leaves.
-/

namespace AgentPay

open Support

/-! ### Payments -/

namespace PaymentRepository

/-- `merchant` -/
def merchant (db : Db) (name : String) (domain : Option String) : Option MerchantId × Db :=
  match domain.bind orNone with
  | none => (none, db)
  | some domain =>
    match db.merchants.findIdx? fun m => m.domain = some domain with
    | some id => (some id, db)
    | none =>
      (some db.merchants.length, { db with merchants := db.merchants ++ [⟨name, some domain⟩] })

/-- `find_by_idempotency` -/
def findByIdempotency (db : Db) (accountId key : String) : Option (RequestId × PaymentRequest) :=
  db.paymentRequests.find? (accountId, key)

/-- The row `create_request` inserts. -/
def newRequest (accountId agentId : String) (amount : Amount) (currency idempotencyKey : String)
    (requestFingerprint : Option String) (merchantId : Option MerchantId) : PaymentRequest :=
  { accountId, agentId, merchantId, amount, currency, idempotencyKey, requestFingerprint,
    policyVersionId := none, budgetId := none, budgetReservationId := none,
    authorizationEvidenceId := none, authorizationContextHash := none }

/-- `create_request`, with the amount as it was written in the request. -/
def createRequest (db : Db) (accountId agentId : String) (amount : Decimal) (currency : String)
    (idempotencyKey : String) (requestFingerprint : Option String)
    (merchantId : Option MerchantId) : Except Error (RequestId × Db) := do
  let stored ← Amount.store amount
  if fitsChar3 currency then
    match db.paymentRequests.insert?
        (newRequest accountId agentId stored currency idempotencyKey requestFingerprint
          merchantId) with
    | none => throw .uniqueViolation
    | some requests =>
      return (db.paymentRequests.nextId, { db with paymentRequests := requests })
  else throw .dataError

/-- The row `create_payment` inserts. -/
def newPayment (requestId : RequestId) (amount : Amount) (currency : String)
    (status : PaymentStatus) : Payment :=
  { paymentRequestId := requestId, amount, currency, status, providerReference := none,
    providerOperationId := none }

/-- `create_payment` -/
def createPayment (db : Db) (requestId : RequestId) (amount : Decimal) (currency : String)
    (status : PaymentStatus) : Except Error (PaymentId × Db) := do
  let stored ← Amount.store amount
  match db.payments.insert? (newPayment requestId stored currency status) with
  | none => throw .uniqueViolation
  | some payments => return (db.payments.nextId, { db with payments := payments })

/-- The payment row `update_status` writes. -/
def withStatus (status : PaymentStatus) (providerReference : Option String) (p : Payment) :
    Payment :=
  { p with status, providerReference := providerReference <|> p.providerReference }

/-- `update_status`: no transition check, and a missing reference keeps the stored one. -/
def updateStatus (db : Db) (paymentId : PaymentId) (status : PaymentStatus)
    (providerReference : Option String) : Db :=
  { db with
    payments := db.payments.update paymentId (withStatus status providerReference)
      fun _ => rfl }

/-- The row `create_provider_operation` inserts. -/
def newOperation (paymentId : PaymentId) (operationType : OperationType) (key : OperationKey) :
    ProviderOperation :=
  { paymentId, operationType, idempotencyKey := key, providerReference := none,
    status := .pending, completed := false }

/-- The last statement of `create_provider_operation`. -/
def setProviderOperation (db : Db) (paymentId : PaymentId) (operationId : OperationId) : Db :=
  { db with
    payments := db.payments.update paymentId
      (fun p => { p with providerOperationId := some operationId }) fun _ => rfl }

/-- `create_provider_operation`: insert, or reuse the row that already holds the key when it is
the same operation of the same payment. -/
def createProviderOperation (db : Db) (paymentId : PaymentId) (operationType : OperationType)
    (key : OperationKey) : Except Error (OperationId × Db) :=
  match db.providerOperations.insert? (newOperation paymentId operationType key) with
  | some operations =>
    let operationId := db.providerOperations.nextId
    .ok (operationId,
      setProviderOperation { db with providerOperations := operations } paymentId operationId)
  | none =>
    match db.providerOperations.find? key with
    | none => .error (.valueError "provider operation idempotency race lost")
    | some (operationId, existing) =>
      if existing.paymentId ≠ paymentId ∨ existing.operationType ≠ operationType then
        .error (.valueError "provider operation idempotency key conflict")
      else .ok (operationId, setProviderOperation db paymentId operationId)

end PaymentRepository

/-! ### Budgets

The rows are computed by functions of their own, so that the statement-by-statement model of
concurrent transactions can share them. The counters are never checked for overflow: `reserve`
keeps their sum within `limit_amount`, itself a `NUMERIC(20,4)`. -/

namespace Budget

/-- The two tests `reserve` makes on the locked row: the currency, then the exact (unrounded)
request against what is available. -/
def refuses (b : Budget) (requestCurrency : String) (requested : Decimal) : Bool :=
  normCurrency b.currency ≠ requestCurrency ||
    decide ((b.limitAmount : ℚ) - b.consumedAmount - b.reservedAmount < requested.units)

/-- `reserved_amount = reserved_amount + requested`, rounded as the column stores it. -/
def addReserved (b : Budget) (requested : Decimal) : Budget :=
  { b with reservedAmount := (roundUnits (b.reservedAmount + requested.units)).toNat }

/-- `reserved_amount - amount, consumed_amount + amount`, under `CHECK (reserved_amount >= 0)`. -/
def consume (b : Budget) (amount : Amount) : Except Error Budget :=
  if amount.units ≤ b.reservedAmount then
    .ok { b with
      reservedAmount := b.reservedAmount - amount.units
      consumedAmount := b.consumedAmount + amount.units }
  else .error .checkViolation

/-- `reserved_amount - amount`, under the same check. -/
def release (b : Budget) (amount : Amount) : Except Error Budget :=
  if amount.units ≤ b.reservedAmount then
    .ok { b with reservedAmount := b.reservedAmount - amount.units }
  else .error .checkViolation

end Budget

namespace BudgetRepository

/-- `_request_currency` -/
def requestCurrency (db : Db) (requestId : RequestId) : String :=
  match db.paymentRequests.get? requestId with
  | some request => normCurrency request.currency
  | none         => ""

/-- `reserve` -/
def reserve (db : Db) (budgetId : BudgetId) (requestId : RequestId) (amount : Decimal) :
    Except Error (Option ReservationId × Db) := do
  match db.budgets[budgetId]? with
  | none => return (none, db)
  | some row =>
    if row.refuses (requestCurrency db requestId) amount then return (none, db)
    else
      let stored ← Amount.store amount
      match db.budgetReservations.insert?
          { budgetId, paymentRequestId := requestId, amount := stored, currency := row.currency,
            status := .reserved } with
      | none => throw .uniqueViolation
      | some reservations =>
        return (some db.budgetReservations.nextId,
          { db with
            budgetReservations := reservations
            budgets := db.budgets.modify budgetId (·.addReserved amount) })

/-- `UPDATE budgets … WHERE id=budget_id` with a row function that may fail its `CHECK`. -/
def updateBudget (db : Db) (budgetId : BudgetId) (f : Budget → Except Error Budget) :
    Except Error Db :=
  match db.budgets[budgetId]? with
  | none => .ok db
  | some row => do
    let row' ← f row
    return { db with budgets := db.budgets.set budgetId row' }

/-- `UPDATE budget_reservations SET status=…` -/
def setReservationStatus (db : Db) (reservationId : ReservationId) (status : ReservationStatus) :
    Db :=
  { db with
    budgetReservations := db.budgetReservations.update reservationId
      (fun r => { r with status }) fun _ => rfl }

/-- `consume` and `release` share their guard: a reservation that is no longer RESERVED is left
alone without a word. -/
def settle (db : Db) (reservationId : ReservationId) (status : ReservationStatus)
    (f : Budget → Amount → Except Error Budget) : Except Error Db :=
  match db.budgetReservations.get? reservationId with
  | none => .error (.valueError "budget reservation not found")
  | some row =>
    if row.status ≠ .reserved then .ok db
    else updateBudget (setReservationStatus db reservationId status) row.budgetId
      fun b => f b row.amount

/-- `consume` -/
def consume (db : Db) (reservationId : ReservationId) : Except Error Db :=
  settle db reservationId .consumed Budget.consume

/-- `release` -/
def release (db : Db) (reservationId : ReservationId) : Except Error Db :=
  settle db reservationId .released Budget.release

end BudgetRepository

end AgentPay
