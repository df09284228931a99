import AgentPay.Policy
import AgentPay.Support.Table

/-!
# The database

The tables of `specs/v1` that the reference implementation reads and writes, with the unique
indexes the migrations leave in force. A surrogate UUID is the position of its row, so ids are in
`created_at` order. An idempotency key is the text it is rendered to, kept apart by what the text
contains: two keys are equal exactly when their texts are.
-/

namespace AgentPay

open Support

abbrev PaymentId := ℕ
abbrev RequestId := ℕ
abbrev ReservationId := ℕ
abbrev BudgetId := ℕ
abbrev PolicyId := ℕ
abbrev PolicyVersionId := ℕ
abbrev EvidenceId := ℕ
abbrev ApprovalId := ℕ
abbrev OperationId := ℕ
abbrev EventId := ℕ
abbrev TransactionId := ℕ
abbrev LedgerAccountId := ℕ
abbrev MerchantId := ℕ
abbrev Time := ℕ

/-! ### Statuses -/

/-- The values of `payment_status` that the code reads or writes. -/
inductive PaymentStatus where
  | policyCheck
  | approvalRequired
  | paymentPending
  | processing
  | unknownExternalOutcome
  | succeeded
  | failed
  | cancelled
  | authorized
  | voidRequested
  | voided
  | voidFailed
  | refundProcessing
  | refunded
  | refundFailed
  deriving DecidableEq, Repr

inductive ReservationStatus where
  | reserved
  | consumed
  | released
  deriving DecidableEq, Repr

inductive ApprovalStatus where
  | pending
  | approved
  | denied
  | expired
  deriving DecidableEq, Repr

inductive VerificationStatus where
  | unverified
  | verified
  | rejected
  deriving DecidableEq, Repr

inductive OperationType where
  | charge
  | capture
  | void
  | refund
  deriving DecidableEq, Repr

inductive OperationStatus where
  | pending
  | succeeded
  | failed
  | unknown
  deriving DecidableEq, Repr

inductive TransactionType where
  | capture
  | void
  | refund
  deriving DecidableEq, Repr

inductive TransactionStatus where
  | pending
  | posted
  | failed
  deriving DecidableEq, Repr

inductive EventStatus where
  | received
  | processed
  deriving DecidableEq, Repr

inductive Side where
  | debit
  | credit
  deriving DecidableEq, Repr

inductive SettlementStatus where
  | reported
  | reconciled
  | discrepancy
  deriving DecidableEq, Repr

inductive ReconciliationStatus where
  | matched
  | discrepancy
  deriving DecidableEq, Repr

/-! ### Idempotency keys -/

/-- `provider_operations.idempotency_key` -/
inductive OperationKey where
  /-- `payment:{payment_id}:charge` -/
  | charge (paymentId : PaymentId)
  /-- `payment:{payment_id}:capture` -/
  | capture (paymentId : PaymentId)
  /-- `payment:{payment_id}:void` -/
  | void (paymentId : PaymentId)
  /-- `payment:{payment_id}:refund:{amount}:{currency}` -/
  | refund (paymentId : PaymentId) (amount : Decimal) (currency : String)
  deriving DecidableEq, Repr

/-- `transactions.idempotency_key` -/
inductive TransactionKey where
  /-- `tx:{payment_id}:capture` -/
  | capture (paymentId : PaymentId)
  /-- `payment:{payment_id}:capture:transaction` -/
  | eventCapture (paymentId : PaymentId)
  /-- `tx:{payment_id}:capture:failed` -/
  | captureFailed (paymentId : PaymentId)
  /-- `tx:{payment_id}:void` -/
  | void (paymentId : PaymentId)
  /-- `tx:{payment_id}:void:failed` -/
  | voidFailed (paymentId : PaymentId)
  /-- `tx:{payment_id}:refund:{amount}:{currency}` -/
  | refund (paymentId : PaymentId) (amount : Decimal) (currency : String)
  deriving DecidableEq, Repr

/-- `ledger_journals.idempotency_key` -/
inductive JournalKey where
  /-- `payment:{payment_id}:capture` -/
  | capture (paymentId : PaymentId)
  /-- `payment:{payment_id}:refund:{amount}:{currency}` -/
  | refund (paymentId : PaymentId) (amount : Decimal) (currency : String)
  deriving DecidableEq, Repr

/-! ### Rows -/

structure Merchant where
  name : String
  domain : Option String
  deriving DecidableEq, Repr

structure Policy where
  accountId : String
  active : Bool
  updatedAt : Time
  deriving DecidableEq, Repr

/-- `rules` is the stored document as `SpendingPolicy.from_rules` reads it, `none` where
`from_rules` raises. No threshold is a NaN, which `evaluate_policy` would raise at. -/
structure PolicyVersion where
  policyId : PolicyId
  version : ℕ
  rules : Option SpendingPolicy
  active : Bool
  deriving DecidableEq, Repr

/-- The amounts are `NUMERIC(20,4)` with `CHECK (… >= 0)`, in ten-thousandths. -/
structure Budget where
  accountId : String
  policyId : Option PolicyId
  currency : String
  limitAmount : ℕ
  consumedAmount : ℕ
  reservedAmount : ℕ
  active : Bool
  periodStart : Option Time := none
  periodEnd : Option Time := none
  deriving DecidableEq, Repr

structure BudgetReservation where
  budgetId : BudgetId
  paymentRequestId : RequestId
  amount : Amount
  currency : String
  status : ReservationStatus
  deriving DecidableEq, Repr

/-- `api.AuthorizationEvidence` -/
structure EvidenceBody where
  evidenceId : String
  issuer : String
  evidenceType : String
  delegationId : Option String
  scope : List String
  maxAmount : Option String
  currency : Option String
  expiresAt : Option String
  digest : Option String
  version : Option String
  signedAssertion : Option String
  deriving DecidableEq, Repr

/-- The `evidence` column: the request's body and what its verification found. -/
structure EvidencePayload where
  body : EvidenceBody
  verifiedEvidenceId : String
  verifiedIssuer : String
  verifiedVersion : Option String
  verifiedDigest : Option String
  deriving DecidableEq, Repr

structure AuthorizationEvidence where
  accountId : String
  agentId : String
  issuerReference : String
  evidenceType : String
  subjectReference : String
  expiresAt : Option Time
  evidence : EvidencePayload
  verificationStatus : VerificationStatus
  paymentRequestId : Option RequestId
  deriving DecidableEq, Repr

structure PaymentRequest where
  accountId : String
  agentId : String
  merchantId : Option MerchantId
  amount : Amount
  currency : String
  idempotencyKey : String
  requestFingerprint : Option String
  policyVersionId : Option PolicyVersionId
  budgetId : Option BudgetId
  budgetReservationId : Option ReservationId
  authorizationEvidenceId : Option EvidenceId
  authorizationContextHash : Option String
  deriving DecidableEq, Repr

structure Payment where
  paymentRequestId : RequestId
  amount : Amount
  currency : String
  status : PaymentStatus
  providerReference : Option String
  providerOperationId : Option OperationId
  deriving DecidableEq, Repr

structure Approval where
  paymentRequestId : RequestId
  status : ApprovalStatus
  expiresAt : Option Time
  approvedBy : Option String
  reason : Option String
  intentDigest : String
  deriving DecidableEq, Repr

/-- `completed` is `completed_at IS NOT NULL`. -/
structure ProviderOperation where
  paymentId : PaymentId
  operationType : OperationType
  idempotencyKey : OperationKey
  providerReference : Option String
  status : OperationStatus
  completed : Bool
  deriving DecidableEq, Repr

structure ProviderEvent where
  providerName : String
  providerEventId : String
  eventType : String
  signatureValid : Bool
  processingStatus : EventStatus
  providerOperationId : Option OperationId
  deriving DecidableEq, Repr

structure Transaction where
  paymentId : PaymentId
  type : TransactionType
  status : TransactionStatus
  amount : Amount
  currency : String
  externalReference : Option String
  idempotencyKey : TransactionKey
  deriving DecidableEq, Repr

structure LedgerPosting where
  ledgerAccountId : LedgerAccountId
  side : Side
  amount : Amount
  currency : String
  deriving DecidableEq, Repr

/-- `reference_type` with its `reference_id`. -/
inductive JournalReference where
  | transaction (id : TransactionId)
  | payment (id : PaymentId)
  deriving DecidableEq, Repr

/-- A journal with its postings. -/
structure LedgerJournal where
  currency : String
  reference : JournalReference
  idempotencyKey : JournalKey
  postings : List LedgerPosting
  deriving DecidableEq, Repr

/-- Why a `PaymentFailed` event was enqueued, with the payload it carries. -/
inductive FailureReason where
  | budgetInsufficient
  | policyDenied (policyVersionId : Option PolicyVersionId)
  | budgetUnavailable (policyVersionId : Option PolicyVersionId)
  | userDenied (approvalId : ApprovalId)
  | provider (reservationId : ReservationId)
  deriving DecidableEq, Repr

/-- An outbox row: its `event_type`, the payment it is about and its payload. -/
inductive OutboxEvent where
  | paymentStarted (paymentId : PaymentId) (reservationId : ReservationId)
  | paymentSucceeded (paymentId : PaymentId) (amount : Decimal) (currency : String)
  | paymentFailed (paymentId : PaymentId) (reason : FailureReason)
  | paymentOutcomeUnknown (paymentId : PaymentId) (reservationId : ReservationId)
  | approvalRequested (paymentId : PaymentId) (approvalId : ApprovalId)
      (policyVersionId : Option PolicyVersionId) (budgetId : BudgetId)
  | paymentApproved (paymentId : PaymentId) (approvalId : ApprovalId) (approvedBy : String)
  | notificationRequested (paymentId : PaymentId) (amount : Decimal) (currency : String)
  deriving DecidableEq, Repr

/-- `amount` is in ten-thousandths: the column has no check, and a report of less than half a
ten-thousandth is stored as zero. -/
structure Settlement where
  providerName : String
  settlementReference : String
  currency : String
  amount : ℤ
  status : SettlementStatus
  deriving DecidableEq, Repr

structure ReconciliationRecord where
  settlementId : ℕ
  providerOperationId : Option OperationId
  status : ReconciliationStatus
  expectedAmount : Option Amount
  observedAmount : ℤ
  expectedCurrency : Option String
  observedCurrency : String
  discrepancyCode : Option String
  deriving DecidableEq, Repr

structure Wallet where
  accountId : String
  currency : String
  active : Bool
  deriving DecidableEq, Repr

structure LedgerAccount where
  walletId : Option ℕ
  deriving DecidableEq, Repr

structure PaymentProviderAccount where
  providerName : String
  currency : String
  ledgerAccountId : LedgerAccountId
  active : Bool
  deriving DecidableEq, Repr

/-! ### The unique indexes -/

abbrev PaymentRequest.key (r : PaymentRequest) : Option (String × String) :=
  some (r.accountId, r.idempotencyKey)

abbrev Payment.key (p : Payment) : Option RequestId := some p.paymentRequestId

abbrev BudgetReservation.key (r : BudgetReservation) : Option (BudgetId × RequestId) :=
  some (r.budgetId, r.paymentRequestId)

abbrev ProviderOperation.key (o : ProviderOperation) : Option OperationKey := some o.idempotencyKey

abbrev ProviderEvent.key (e : ProviderEvent) : Option (String × String) :=
  some (e.providerName, e.providerEventId)

abbrev Transaction.key (t : Transaction) : Option TransactionKey := some t.idempotencyKey

abbrev LedgerJournal.key (j : LedgerJournal) : Option JournalKey := some j.idempotencyKey

abbrev Settlement.key (s : Settlement) : Option (String × String) :=
  some (s.providerName, s.settlementReference)

/-- One committed state of the database. -/
structure Db where
  merchants : List Merchant
  policies : List Policy
  policyVersions : List PolicyVersion
  wallets : List Wallet
  ledgerAccounts : List LedgerAccount
  paymentProviderAccounts : List PaymentProviderAccount
  budgets : List Budget
  budgetReservations : Table BudgetReservation BudgetReservation.key
  authorizationEvidence : List AuthorizationEvidence
  paymentRequests : Table PaymentRequest PaymentRequest.key
  payments : Table Payment Payment.key
  approvals : List Approval
  providerOperations : Table ProviderOperation ProviderOperation.key
  providerEvents : Table ProviderEvent ProviderEvent.key
  transactions : Table Transaction Transaction.key
  ledgerJournals : Table LedgerJournal LedgerJournal.key
  outboxEvents : List OutboxEvent
  settlements : Table Settlement Settlement.key
  reconciliationRecords : List ReconciliationRecord

/-- `UnitOfWork`: the writes of a body that returns are committed, those of one that raises are
rolled back. -/
def Db.commit (db : Db) (body : Except Error Db) : Db :=
  match body with
  | .ok db'  => db'
  | .error _ => db

@[simp] lemma Db.commit_ok (db db' : Db) : db.commit (.ok db') = db' := rfl

@[simp] lemma Db.commit_error (db : Db) (e : Error) : db.commit (.error e) = db := rfl

/-- `enqueue` -/
def enqueue (db : Db) (event : OutboxEvent) : Db :=
  { db with outboxEvents := db.outboxEvents ++ [event] }

end AgentPay
