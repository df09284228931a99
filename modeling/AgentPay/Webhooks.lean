import AgentPay.Orchestrator

/-!
# Provider webhooks

`provider_events.py`, `webhook_resolution.py` and the webhook endpoint of `webhooks.py`. `resolve`
commits or rolls back the connection's transaction itself; the endpoint calls it last, so one
delivery is still one unit of work.
-/

namespace AgentPay

open Support

/-! ### Provider events -/

namespace ProviderEventRepository

/-- `record`: the id of the new event row, or `none` for a repeated event id. -/
def record (db : Db) (providerName eventId eventType : String) (signatureValid : Bool) :
    Option EventId × Db :=
  match db.providerEvents.insert?
      { providerName, providerEventId := eventId, eventType, signatureValid,
        processingStatus := .received, providerOperationId := none } with
  | some providerEvents => (some db.providerEvents.nextId, { db with providerEvents })
  | none => (none, db)

end ProviderEventRepository

/-- `mark_processed` -/
def markProcessed (db : Db) (eventId : EventId) : Db :=
  { db with
    providerEvents := db.providerEvents.update eventId
      (fun e => { e with processingStatus := .processed }) fun _ => rfl }

/-! ### Resolution -/

/-- What `resolve` answers. -/
inductive Resolution where
  | resolved
  | duplicate
  | ignored
  deriving DecidableEq, Repr

/-- A payment that a provider event may still decide. -/
def PaymentStatus.Resolvable (status : PaymentStatus) : Prop :=
  status = .unknownExternalOutcome ∨ status = .processing ∨ status = .paymentPending

instance : DecidablePred PaymentStatus.Resolvable :=
  fun _ => inferInstanceAs (Decidable (_ ∨ _ ∨ _))

namespace ProviderEventResolver

/-- `UPDATE provider_operations … WHERE id=…` -/
def decideOperation (db : Db) (operationId : OperationId) (status : OperationStatus)
    (providerReference : Option String) : Db :=
  { db with
    providerOperations := db.providerOperations.update operationId
      (PaymentOrchestrator.decided status providerReference) fun _ => rfl }

/-- `_create_transaction`, for the only transaction the resolver creates: an existing row is
reused, whatever its status. -/
def createTransaction (db : Db) (paymentId : PaymentId) (amount : Decimal) (currency : String)
    (externalReference : Option String) : Except Error (TransactionId × Db) :=
  match db.transactions.idOf? (.eventCapture paymentId) with
  | some id => .ok (id, db)
  | none => do
    let stored ← Amount.store amount
    match db.transactions.insert?
        { paymentId, type := .capture, status := .posted, amount := stored, currency,
          externalReference, idempotencyKey := .eventCapture paymentId } with
    | none => throw .uniqueViolation
    | some transactions => return (db.transactions.nextId, { db with transactions })

/-- What a SUCCEEDED event does for a CHARGE, before the payment row is written. -/
def settleCharge (db : Db) (paymentId : PaymentId) (reservationId : Option ReservationId)
    (amount : Decimal) (currency : String) (accounts : LedgerAccounts)
    (providerReference : Option String) : Except Error Db := do
  match reservationId with
  | none => throw (.valueError "successful charge has no budget reservation")
  | some reservationId =>
    let db ← BudgetRepository.consume db reservationId
    let (transactionId, db) ← createTransaction db paymentId amount currency providerReference
    let (_, db) ← postJournal db currency (.payment paymentId) (.capture paymentId)
      (transfer accounts.customer accounts.clearing amount currency)
    return postTransaction db transactionId

/-- The SUCCEEDED branch. -/
def resolveSucceeded (db : Db) (operationId : OperationId) (operation : ProviderOperation)
    (payment : Payment) (request : PaymentRequest) (accounts : LedgerAccounts)
    (providerReference : Option String) : Except Error Db := do
  let db := decideOperation db operationId .succeeded providerReference
  let db ←
    if operation.operationType = .charge then
      settleCharge db operation.paymentId request.budgetReservationId payment.amount.toDecimal
        (normCurrency payment.currency) accounts providerReference
    else pure db
  return PaymentRepository.updateStatus db operation.paymentId .succeeded providerReference

/-- The FAILED branch. -/
def resolveFailed (db : Db) (operationId : OperationId) (operation : ProviderOperation)
    (request : PaymentRequest) (providerReference : Option String) : Except Error Db := do
  let db := decideOperation db operationId .failed providerReference
  let db ←
    match operation.operationType, request.budgetReservationId with
    | .charge, some reservationId => BudgetRepository.release db reservationId
    | _, _ => pure db
  return PaymentRepository.updateStatus db operation.paymentId .failed providerReference

/-- The join that `resolve` locks: operation, payment, request. -/
def operationRow (db : Db) (operationId : OperationId) :
    Option (ProviderOperation × Payment × PaymentRequest) := do
  let operation ← db.providerOperations.get? operationId
  let payment ← db.payments.get? operation.paymentId
  let request ← db.paymentRequests.get? payment.paymentRequestId
  return (operation, payment, request)

/-- `resolve` -/
def resolve (db : Db) (eventId : EventId) (operationId : OperationId) (outcome : String)
    (providerReference : Option String) (accounts : LedgerAccounts) :
    Except Error (Resolution × Db) :=
  match db.providerEvents.get? eventId with
  | none => .error (.valueError "provider event not found")
  | some event =>
    if event.signatureValid = false then
      .error (.permissionError "provider event signature is not valid")
    else if event.processingStatus = .processed then .ok (.duplicate, db)
    else
      match operationRow db operationId with
      | none => .error (.valueError "provider operation not found")
      | some (operation, payment, request) =>
        if ¬ payment.status.Resolvable then .ok (.ignored, markProcessed db eventId)
        else if outcome = "SUCCEEDED" then do
          let db ← resolveSucceeded db operationId operation payment request accounts
            providerReference
          return (.resolved, markProcessed db eventId)
        else if outcome = "FAILED" then do
          let db ← resolveFailed db operationId operation request providerReference
          return (.resolved, markProcessed db eventId)
        else .error (.valueError "unsupported provider outcome")

end ProviderEventResolver

/-! ### The endpoint -/

/-- `payload.get("occurred_at") or payload.get("timestamp")`, in seconds. -/
inductive Timestamp where
  | missing
  | malformed
  | seconds (value : ℤ)
  deriving DecidableEq, Repr

/-- The fields of the payload that are read; `none` where the value is not a string. -/
structure WebhookPayload where
  eventId : Option String
  eventType : Option String
  providerReference : Option String
  occurredAt : Timestamp := .missing
  deriving DecidableEq, Repr

/-- What `json.loads` makes of the body. -/
inductive WebhookBody where
  | invalidJson
  | notAnObject
  | object (payload : WebhookPayload)
  deriving DecidableEq, Repr

/-- A request to the endpoint. `signed` says that the provider's secret is configured and that the
signature header is the body's HMAC under it. -/
structure Delivery where
  providerName : String
  signed : Bool
  body : WebhookBody
  deriving DecidableEq, Repr

/-- What the endpoint answers. -/
inductive WebhookStatus where
  | duplicate
  | accepted
  | applied (resolution : Resolution) (paymentId : PaymentId)
  deriving DecidableEq, Repr

/-- `_enforce_replay_window`; `window` is `none` when the setting is not a number. -/
def enforceReplayWindow (window : Option ℤ) (now : ℤ) (payload : WebhookPayload) :
    Except Error Unit :=
  match window with
  | none => .error (.http 500 "invalid webhook replay-window configuration")
  | some window =>
    if window ≤ 0 then .ok ()
    else
      match payload.occurredAt with
      | .missing => .error (.http 400 "provider timestamp is required")
      | .malformed => .error (.http 400 "invalid provider timestamp")
      | .seconds at' =>
        if window < |now - at'| then
          .error (.http 400 "provider event is outside replay window")
        else .ok ()

/-- `outcome_map` -/
def outcomeOf (eventType : String) : Option String :=
  if eventType = "payment.succeeded" then some "SUCCEEDED"
  else if eventType = "payment.failed" then some "FAILED"
  else none

/-- The newest provider operation that carries a reference. -/
def findOperation (db : Db) (providerReference : String) :
    Option (OperationId × ProviderOperation) := do
  let id ← lastIdx? (fun o : ProviderOperation =>
    decide (o.providerReference = some providerReference)) db.providerOperations.rows
  let operation ← db.providerOperations.get? id
  return (id, operation)

/-- The signature, the body and the two fields an event cannot do without. -/
def readPayload (window : Option ℤ) (now : ℤ) (delivery : Delivery) :
    Except Error (String × String × Option String) := do
  if delivery.signed = false then throw (.http 401 "invalid provider signature")
  else
    match delivery.body with
    | .invalidJson => throw (.http 400 "invalid JSON payload")
    | .notAnObject => throw (.http 400 "provider payload must be an object")
    | .object payload =>
      enforceReplayWindow window now payload
      match payload.eventId, payload.eventType with
      | some eventId, some eventType => return (eventId, eventType, payload.providerReference)
      | _, _ => throw (.http 400 "event_id and event_type are required")

/-- The transaction of the endpoint, after the payload is read. -/
def applyEvent (db : Db) (providerName eventId eventType : String)
    (providerReference : Option String) : Except Error (WebhookStatus × Db) :=
  match ProviderEventRepository.record db providerName eventId eventType true with
  | (none, db) => .ok (.duplicate, db)
  | (some event, db) =>
    match outcomeOf eventType with
    | none => .ok (.accepted, db)
    | some outcome =>
      match providerReference.bind orNone with
      | none => .error (.http 400 "provider_reference is required for financial events")
      | some reference =>
        match findOperation db reference with
        | none => .error (.http 404 "provider operation not found")
        | some (operationId, operation) =>
          let db := { db with
            providerEvents := db.providerEvents.update event
              (fun e => { e with providerOperationId := some operationId }) fun _ => rfl }
          match ledgerAccounts db operation.paymentId with
          | none => .error (.http 409 "ledger accounts are not configured")
          | some accounts => do
            let (resolution, db) ← ProviderEventResolver.resolve db event operationId outcome
              (some reference) accounts
            return (.applied resolution operation.paymentId, db)

/-- `provider_webhook` -/
def providerWebhook (window : Option ℤ) (now : ℤ) (db : Db) (delivery : Delivery) :
    Except Error (WebhookStatus × Db) := do
  let (eventId, eventType, providerReference) ← readPayload window now delivery
  applyEvent db delivery.providerName eventId eventType providerReference

end AgentPay
