import AgentPay.Control
import AgentPay.Lifecycle

/-!
# The payment API

`api.py`: creating a payment, approving it and denying it. `create_payment` is kept in the pieces
that other requests can run between: the check before any work, the insert of the request under
the unique key, and the rest of its transaction.
-/

namespace AgentPay

open Support

/-! ### Requests -/

/-- `Merchant` -/
structure MerchantBody where
  name : String
  domain : Option String
  category : Option String
  deriving DecidableEq, Repr

/-- `PaymentItem` -/
structure PaymentItem where
  name : String
  quantity : ℕ
  unitPrice : String
  deriving DecidableEq, Repr

/-- `Money`: digits with at most four of them after the point, and three characters of
currency. -/
structure Money where
  digits : ℕ
  places : Fin 5
  currency : String
  iso : currency.length = 3
  deriving DecidableEq, Repr

/-- `Decimal(request.amount.value)` -/
def Money.decimal (m : Money) : Decimal := ⟨m.digits, m.places⟩

/-- `CreatePayment` -/
structure CreatePayment where
  agentId : String
  accountId : String
  policyId : Option PolicyId
  budgetId : Option BudgetId
  merchant : Option MerchantBody
  amount : Money
  purpose : String
  items : List PaymentItem
  authorizationEvidence : Option EvidenceBody
  deriving DecidableEq, Repr

/-- `request.amount.currency.upper()` -/
def CreatePayment.currency (request : CreatePayment) : String := upper request.amount.currency

/-- `model_dump` of the evidence. -/
def EvidenceBody.dump (e : EvidenceBody) : Json :=
  .object
    [("currency", .ofText? e.currency),
     ("delegation_id", .ofText? e.delegationId),
     ("digest", .ofText? e.digest),
     ("evidence_id", .text e.evidenceId),
     ("evidence_type", .text e.evidenceType),
     ("expires_at", .ofText? e.expiresAt),
     ("issuer", .text e.issuer),
     ("max_amount", .ofText? e.maxAmount),
     ("scope", .array (e.scope.map .text)),
     ("signed_assertion", .ofText? e.signedAssertion),
     ("version", .ofText? e.version)]

/-- `model_dump` of the merchant. -/
def MerchantBody.dump (m : MerchantBody) : Json :=
  .object [("category", .ofText? m.category), ("domain", .ofText? m.domain), ("name", .text m.name)]

/-- `model_dump` of an item. -/
def PaymentItem.dump (i : PaymentItem) : Json :=
  .object [("name", .text i.name), ("quantity", .number i.quantity),
    ("unit_price", .text i.unitPrice)]

/-- `model_dump(mode="json")` -/
def CreatePayment.dump (request : CreatePayment) : Json :=
  .object
    [("account_id", .text request.accountId),
     ("agent_id", .text request.agentId),
     ("amount", .object [("currency", .text request.amount.currency),
       ("value", .text request.amount.decimal.text)]),
     ("authorization_evidence", (request.authorizationEvidence.map EvidenceBody.dump).getD .null),
     ("budget_id", .ofText? (request.budgetId.map toString)),
     ("items", .array (request.items.map PaymentItem.dump)),
     ("merchant", (request.merchant.map MerchantBody.dump).getD .null),
     ("policy_id", .ofText? (request.policyId.map toString)),
     ("purpose", .text request.purpose)]

/-- `request_fingerprint` -/
def requestFingerprint (env : Env) (request : CreatePayment) : String := env.digest request.dump

/-- A call of `create_payment`: the body with the headers that are read. -/
structure CreateCall where
  request : CreatePayment
  idempotencyKey : Option String
  authorization : Option String
  deriving DecidableEq, Repr

/-- What `create_payment` returns besides the payment and its status. -/
inductive CreateDetail where
  | replayed
  | asked (approvalId : ApprovalId)
  | decided (decision : Decision) (policyEvidence : ControlRepository.PolicyEvidence)
  deriving DecidableEq, Repr

/-- What `create_payment` returns. A `deferred` error is raised after the transaction has been
committed. -/
inductive CreateOutcome where
  | returned (paymentId : PaymentId) (status : PaymentStatus) (detail : CreateDetail)
  | deferred (status : ℕ) (detail : String)
  deriving DecidableEq, Repr

/-! ### Before any work -/

/-- `authorization[7:].strip()` behind `startswith("Bearer ")`. -/
def bearerToken (authorization : Option String) : Option String :=
  match authorization with
  | none => none
  | some header =>
    if "Bearer ".toList.isPrefixOf header.toList then
      some (strip (String.ofList (header.toList.drop 7)))
    else none

/-- `except PermissionError` -/
def onPermissionError {α : Type} (status : ℕ) : Except Error α → Except Error α
  | .error (.permissionError message) => .error (.http status message)
  | result => result

/-- `_authenticate_agent` -/
def authenticateAgent (env : Env) (authorization : Option String) (request : CreatePayment) :
    Except Error Unit :=
  match bearerToken authorization with
  | none => .error (.http 401 "Bearer authentication is required")
  | some token =>
    onPermissionError 403 do
      let principal ← env.resolveBearer token
      requireAgent principal request.agentId request.accountId

/-- The checks `create_payment` makes before it opens a transaction: the key and the evidence. -/
def checkCall (env : Env) (call : CreateCall) : Except Error (String × EvidenceBody) := do
  match call.idempotencyKey.bind orNone with
  | none => throw (.http 400 "Idempotency-Key is required")
  | some key =>
    if strip key = "" then throw (.http 400 "Idempotency-Key is required")
    else if 255 < key.length then throw (.http 400 "Idempotency-Key is too long")
    else
      authenticateAgent env call.authorization call.request
      match call.request.authorizationEvidence with
      | none => throw (.http 403 "verifiable ATF authorization evidence is required")
      | some evidence => return (key, evidence)

/-- What both duplicate checks answer for a request row that holds the key. -/
def replay (db : Db) (fingerprint : String) (requestId : RequestId) (existing : PaymentRequest) :
    Except Error CreateOutcome :=
  if (existing.requestFingerprint.bind orNone).any (· ≠ fingerprint) then
    .error (.http 409 "idempotency key was already used with a different payment request")
  else
    match db.payments.find? requestId with
    | some (paymentId, payment) => .ok (.returned paymentId payment.status .replayed)
    | none => .error (.http 409 "idempotency key already belongs to an incomplete request")

/-- `if supplied and supplied != verified: raise AuthorizationError(message)` -/
def requireMatch (supplied : Option String) (verified : Option String) (message : String) :
    Except Error Unit :=
  require ((supplied.bind orNone).all fun s => some s = verified) message

/-- The verified authorization of a request; every refusal is a 403. -/
def authorize (env : Env) (now : Time) (request : CreatePayment) (evidence : EvidenceBody) :
    Except Error (String × AuthorizationContext) :=
  match evidence.signedAssertion.bind orNone with
  | none => .error (.http 403 "cryptographically signed ATF authorization evidence is required")
  | some assertion =>
    onPermissionError 403 do
      let context ← verifySignedAssertion env now assertion request.agentId request.accountId
        request.amount.decimal request.currency
      context.validate now request.agentId request.accountId request.amount.decimal
        request.currency
      requireMatch (some evidence.evidenceId) (some context.evidenceId)
        "authorization evidence id does not match signed evidence"
      requireMatch evidence.version context.version
        "authorization evidence version does not match signed evidence"
      requireMatch (some evidence.issuer) (some context.issuer)
        "authorization evidence issuer does not match signed evidence"
      return (assertion, context)

/-! ### The transaction -/

/-- The local variables of `create_payment` when it reaches the insert of the request. -/
structure Intake where
  request : CreatePayment
  idempotencyKey : String
  fingerprint : String
  evidence : EvidenceBody
  context : AuthorizationContext
  deriving DecidableEq, Repr

/-- The evidence row: what was sent and what its verification found. -/
def Intake.evidenceRow (i : Intake) : AuthorizationEvidence :=
  let evidence : EvidencePayload :=
    { body := i.evidence
      verifiedEvidenceId := i.context.evidenceId
      verifiedIssuer := i.context.issuer
      verifiedVersion := i.context.version
      verifiedDigest := i.context.digest }
  { accountId := i.request.accountId, agentId := i.request.agentId,
    issuerReference := i.context.issuer, evidenceType := i.evidence.evidenceType,
    subjectReference := i.context.evidenceId, expiresAt := i.context.validUntil, evidence,
    verificationStatus := .verified, paymentRequestId := none }

/-- The insert of the evidence row. -/
def insertEvidence (db : Db) (i : Intake) : EvidenceId × Db :=
  (db.authorizationEvidence.length,
    { db with authorizationEvidence := db.authorizationEvidence ++ [i.evidenceRow] })

/-- The two updates that link a request with its evidence. -/
def linkEvidence (db : Db) (requestId : RequestId) (evidenceId : EvidenceId)
    (digest : Option String) : Db :=
  { db with
    paymentRequests := db.paymentRequests.update requestId
      (fun r => { r with authorizationEvidenceId := some evidenceId,
                         authorizationContextHash := digest }) fun _ => rfl
    authorizationEvidence := db.authorizationEvidence.modify evidenceId
      fun e => { e with paymentRequestId := some requestId } }

/-- `_policy_id` -/
def policyIdOf (db : Db) (versionId : Option PolicyVersionId) : Option PolicyId :=
  (versionId.bind (db.policyVersions[·]?)).map (·.policyId)

/-- The payment is failed in the transaction that created it, and the error raised after its
commit. -/
def failDeferred (db : Db) (paymentId : PaymentId) (reason : FailureReason) (status : ℕ)
    (detail : String) : CreateOutcome × Db :=
  (.deferred status detail,
    enqueue (PaymentRepository.updateStatus db paymentId .failed none)
      (.paymentFailed paymentId reason))

/-- The part of `create_payment` after the payment row is inserted. -/
def decidePayment (env : Env) (now : Time) (db : Db) (i : Intake) (requestId : RequestId)
    (paymentId : PaymentId) : Except Error (CreateOutcome × Db) :=
  let request := i.request
  let question : ControlRepository.PolicyQuestion :=
    { accountId := request.accountId, policyId := request.policyId, paymentRequestId := requestId,
      amount := request.amount.decimal, currency := request.currency,
      merchantDomain := (request.merchant.bind (·.domain)).getD "",
      category := request.merchant.bind (·.category) }
  match ControlRepository.evaluatePolicy db question with
  | .error (.lookupError message) => .ok (.deferred 403 message, db)
  | .error e => .error e
  | .ok ((decision, versionId, policyEvidence), db) =>
    if decision = .deny then
      .ok (failDeferred db paymentId (.policyDenied versionId) 403 "payment denied by policy")
    else
      match ControlRepository.selectBudget db request.accountId request.budgetId request.currency
          (policyIdOf db versionId) with
      | none =>
        .ok (failDeferred db paymentId (.budgetUnavailable versionId) 409
          "exactly one active compatible budget is required")
      | some budgetId =>
        let db := ControlRepository.bindBudget db requestId budgetId
        if decision = .requireApproval then do
          let (approvalId, db) ← ControlRepository.createApproval env now db requestId
            (some "policy requires approval")
          let db := PaymentRepository.updateStatus db paymentId .approvalRequired none
          return (.returned paymentId .approvalRequired (.asked approvalId),
            enqueue db (.approvalRequested paymentId approvalId versionId budgetId))
        else do
          let (_, db) ← PaymentOrchestrator.prepare db paymentId requestId budgetId
            request.amount.decimal request.currency
          let db := if decision = .allowNotify then
            enqueue db (.notificationRequested paymentId request.amount.decimal request.currency)
            else db
          return (.returned paymentId .processing (.decided decision policyEvidence), db)

/-- The merchant and the evidence row, written before the request. -/
def insertReferences (db : Db) (i : Intake) : Option MerchantId × EvidenceId × Db :=
  let (merchantId, db) :=
    match i.request.merchant with
    | none => (none, db)
    | some merchant => PaymentRepository.merchant db merchant.name merchant.domain
  (merchantId, insertEvidence db i)

/-- The transaction of `create_payment` from the merchant row on. The savepoint around the insert
of the request turns a lost race for the key into a replay. -/
def acceptPayment (env : Env) (now : Time) (db : Db) (i : Intake) :
    Except Error (CreateOutcome × Db) :=
  let request := i.request
  let (merchantId, evidenceId, db) := insertReferences db i
  match PaymentRepository.createRequest db request.accountId request.agentId
      request.amount.decimal request.currency i.idempotencyKey (some i.fingerprint)
      merchantId with
  | .error .uniqueViolation =>
    match PaymentRepository.findByIdempotency db request.accountId i.idempotencyKey with
    | none => .error (.http 409 "idempotency key conflict could not be resolved")
    | some (requestId, existing) => do
      return (← replay db i.fingerprint requestId existing, db)
  | .error e => .error e
  | .ok (requestId, db) => do
    let db := linkEvidence db requestId evidenceId i.context.digest
    let (paymentId, db) ← PaymentRepository.createPayment db requestId request.amount.decimal
      request.currency .policyCheck
    decidePayment env now db i requestId paymentId

/-- Where the first read of the transaction leads: to an answer, or on to the insert. -/
inductive Opening where
  | answered (result : Except Error CreateOutcome)
  | intake (i : Intake)

/-- `create_payment` up to the insert of the request. -/
def openPayment (env : Env) (now : Time) (db : Db) (call : CreateCall) : Opening :=
  match checkCall env call with
  | .error e => .answered (.error e)
  | .ok (key, evidence) =>
    let fingerprint := requestFingerprint env call.request
    match PaymentRepository.findByIdempotency db call.request.accountId key with
    | some (requestId, existing) => .answered (replay db fingerprint requestId existing)
    | none =>
      match authorize env now call.request evidence with
      | .error e => .answered (.error e)
      | .ok (_, context) => .intake ⟨call.request, key, fingerprint, evidence, context⟩

/-- `create_payment` without a competitor. -/
def createPayment (env : Env) (now : Time) (db : Db) (call : CreateCall) :
    Except Error (CreateOutcome × Db) :=
  match openPayment env now db call with
  | .answered result => result.map (·, db)
  | .intake i => acceptPayment env now db i

/-! ### Approvals -/

/-- `approve_payment` -/
def approvePayment (env : Env) (now : Time) (db : Db) (approvalId : ApprovalId)
    (reason : Option String) (authorization : Option String) :
    Except Error ((PaymentId × PaymentStatus) × Db) := do
  let actor ← onPermissionError 401 (env.resolveApprovalBearer (bearerToken authorization))
  match db.approvals[approvalId]? with
  | none => throw (.http 404 "approval not found")
  | some approval =>
    if approval.status ≠ .pending then throw (.http 409 "approval is no longer pending")
    -- `set_approval(…, "EXPIRED", …)` is rolled back by the exception after it
    else if approval.expiresAt.any fun expiry => decide (expiry ≤ now) then
      throw (.http 409 "approval has expired")
    else
      match ← ControlRepository.paymentRequest env db approval.paymentRequestId with
      | none => throw (.http 404 "payment request not found")
      | some (request, paymentId, payment) =>
        if payment.status ≠ .approvalRequired then
          throw (.http 409 "payment is not awaiting approval")
        else
          match request.budgetId with
          | none => throw (.http 409 "payment has no bound budget")
          | some budgetId =>
            if approval.intentDigest ≠
                (ControlRepository.bindingOf db approval.paymentRequestId request).digest env then
              throw (.http 409 "approval binding no longer matches payment intent")
            else
              let db := ControlRepository.setApproval db approvalId .approved actor reason
              let (_, db) ← PaymentOrchestrator.prepare db paymentId approval.paymentRequestId
                budgetId request.amount.toDecimal (normCurrency request.currency)
              return ((paymentId, .processing),
                enqueue db (.paymentApproved paymentId approvalId actor))

/-- `deny_payment` -/
def denyPayment (env : Env) (db : Db) (approvalId : ApprovalId) (reason : Option String)
    (authorization : Option String) : Except Error ((PaymentId × PaymentStatus) × Db) := do
  let actor ← onPermissionError 401 (env.resolveApprovalBearer (bearerToken authorization))
  match db.approvals[approvalId]? with
  | none => throw (.http 404 "approval not found")
  | some approval =>
    if approval.status ≠ .pending then throw (.http 409 "approval is no longer pending")
    else
      match ← ControlRepository.paymentRequest env db approval.paymentRequestId with
      | none => throw (.typeError "'NoneType' object is not subscriptable")
      | some (_, paymentId, _) =>
        let db := ControlRepository.setApproval db approvalId .denied actor reason
        let db := PaymentRepository.updateStatus db paymentId .failed none
        return ((paymentId, .failed),
          enqueue db (.paymentFailed paymentId (.userDenied approvalId)))

end AgentPay
