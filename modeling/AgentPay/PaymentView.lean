import AgentPay.Webhooks
import AgentPay.Lifecycle

/-!
# One payment across the tables

A payment's status, its reservation, its charge, its transactions and its journals live in
different tables, each under a key of its own. `view db p` gathers what the tables hold about
payment `p`; `Db.Sound` is what ties the rows together. Everything the payment paths do to the
database is an `Effect` on the view of one payment.
-/

namespace AgentPay

open Support

/-! ### Keys -/

def OperationKey.paymentId : OperationKey → PaymentId
  | .charge p | .capture p | .void p | .refund p _ _ => p

def OperationKey.operationType : OperationKey → OperationType
  | .charge _     => .charge
  | .capture _    => .capture
  | .void _       => .void
  | .refund _ _ _ => .refund

def TransactionKey.paymentId : TransactionKey → PaymentId
  | .capture p | .eventCapture p | .captureFailed p | .void p | .voidFailed p | .refund p _ _ => p

def TransactionKey.type : TransactionKey → TransactionType
  | .capture _ | .eventCapture _ | .captureFailed _ => .capture
  | .void _ | .voidFailed _                         => .void
  | .refund _ _ _                                   => .refund

def JournalKey.paymentId : JournalKey → PaymentId
  | .capture p | .refund p _ _ => p

/-- An operation is filed under the key of its payment and type, and only a charge ever carries a
provider reference. -/
structure ProviderOperation.Filed (o : ProviderOperation) : Prop where
  payment : o.paymentId = o.idempotencyKey.paymentId
  type : o.operationType = o.idempotencyKey.operationType
  reference : o.operationType ≠ .charge → o.providerReference = none

/-- The statuses a transaction can have under its key. -/
def TransactionKey.Allows : TransactionKey → TransactionStatus → Prop
  | .capture _, s | .eventCapture _, s | .void _, s => s = .posted
  | .captureFailed _, s | .voidFailed _, s          => s = .failed
  | .refund _ _ _, _                                => True

/-- A transaction is filed under the key of its payment and type; a refund's key says its
amount. -/
structure Transaction.Filed (t : Transaction) : Prop where
  payment : t.paymentId = t.idempotencyKey.paymentId
  type : t.type = t.idempotencyKey.type
  status : t.idempotencyKey.Allows t.status
  amount : ∀ p a c, t.idempotencyKey = .refund p a c → Amount.store a = .ok t.amount

/-! ### The view -/

/-- The two keys a capture can be posted under: `finalize` and `lifecycle.capture` share one, the
webhook resolver has its own. -/
inductive CapturePath where
  | direct
  | event
  deriving DecidableEq, Repr

def CapturePath.key (p : PaymentId) : CapturePath → TransactionKey
  | .direct => .capture p
  | .event  => .eventCapture p

/-- What the transactions say about a payment. -/
structure TransactionView where
  capture : CapturePath → Bool
  refund : Decimal × String → Option TransactionStatus
  captures : ℕ
  captured : ℕ
  refunded : ℕ

/-- What the journals say about a payment: which are posted, what the capture debited and what the
refunds credited back. -/
structure JournalView where
  capture : Bool
  refund : Decimal × String → Bool
  debited : ℕ
  credited : ℕ

/-- What the tables hold about one payment. `charge` is `completed_at IS NOT NULL` of its CHARGE
operation, `pending` the number of its open approvals. -/
structure PaymentView where
  requestId : RequestId
  amount : Amount
  currency : String
  status : PaymentStatus
  reservation : Option (ReservationId × ReservationStatus)
  charge : Option Bool
  pending : ℕ
  transactions : TransactionView
  journals : JournalView

/-- The number of POSTED transactions of one type. -/
def postedCount (db : Db) (p : PaymentId) (type : TransactionType) : ℕ :=
  (db.transactions.rows.map fun t =>
    if t.paymentId = p ∧ t.type = type ∧ t.status = .posted then 1 else 0).sum

def transactionView (db : Db) (p : PaymentId) : TransactionView where
  capture path := (db.transactions.row? (path.key p)).isSome
  refund k := (db.transactions.row? (.refund p k.1 k.2)).map (·.status)
  captures := postedCount db p .capture
  captured := PaymentLifecycle.postedSum db p .capture
  refunded := PaymentLifecycle.postedSum db p .refund

/-- A journal's debit if it is the capture of the payment. -/
def LedgerJournal.captureDebit (p : PaymentId) (j : LedgerJournal) : ℕ :=
  match j.idempotencyKey with
  | .capture q    => if q = p then j.total .debit else 0
  | .refund _ _ _ => 0

/-- A journal's credit if it is a refund of the payment. -/
def LedgerJournal.refundCredit (p : PaymentId) (j : LedgerJournal) : ℕ :=
  match j.idempotencyKey with
  | .capture _    => 0
  | .refund q _ _ => if q = p then j.total .credit else 0

def journalView (db : Db) (p : PaymentId) : JournalView where
  capture := (db.ledgerJournals.row? (.capture p)).isSome
  refund k := (db.ledgerJournals.row? (.refund p k.1 k.2)).isSome
  debited := (db.ledgerJournals.rows.map (·.captureDebit p)).sum
  credited := (db.ledgerJournals.rows.map (·.refundCredit p)).sum

/-- The reservation a request links. -/
def reservationView (db : Db) (request : PaymentRequest) :
    Option (ReservationId × ReservationStatus) := do
  let id ← request.budgetReservationId
  let row ← db.budgetReservations.get? id
  return (id, row.status)

/-- The open approvals of a request. -/
def pendingApprovals (db : Db) (requestId : RequestId) : ℕ :=
  db.approvals.countP fun a => a.paymentRequestId = requestId && a.status = .pending

/-- The view of a payment with the rows that name its request. -/
def viewOf (db : Db) (p : PaymentId) (payment : Payment) (request : PaymentRequest) :
    PaymentView where
  requestId := payment.paymentRequestId
  amount := payment.amount
  currency := payment.currency
  status := payment.status
  reservation := reservationView db request
  charge := (db.providerOperations.row? (.charge p)).map (·.completed)
  pending := pendingApprovals db payment.paymentRequestId
  transactions := transactionView db p
  journals := journalView db p

/-- What the tables hold about payment `p`. -/
def view (db : Db) (p : PaymentId) : Option PaymentView :=
  (db.payments.get? p).bind fun payment =>
    (db.paymentRequests.get? payment.paymentRequestId).map (viewOf db p payment)

lemma view_eq_some {db : Db} {p : PaymentId} {v : PaymentView} :
    view db p = some v ↔ ∃ payment request, db.payments.get? p = some payment ∧
      db.paymentRequests.get? payment.paymentRequestId = some request ∧
      viewOf db p payment request = v := by
  simp only [view, Option.bind_eq_some_iff, Option.map_eq_some_iff]
  constructor
  · rintro ⟨payment, hp, request, hr, hv⟩
    exact ⟨payment, request, hp, hr, hv⟩
  · rintro ⟨payment, request, hp, hr, hv⟩
    exact ⟨payment, hp, request, hr, hv⟩

/-- What is computed from a view's tables alone. -/
lemma view_tables {db : Db} {p : PaymentId} {v : PaymentView} (h : view db p = some v) :
    v.charge = (db.providerOperations.row? (.charge p)).map (·.completed) ∧
      v.pending = pendingApprovals db v.requestId ∧ v.transactions = transactionView db p ∧
      v.journals = journalView db p := by
  obtain ⟨payment, request, -, -, rfl⟩ := view_eq_some.mp h
  exact ⟨rfl, rfl, rfl, rfl⟩

/-- A database that agrees on the payment and its request is viewed through the other tables. -/
lemma view_of_eq {db db' : Db} {p : PaymentId} {f : PaymentView → PaymentView}
    (hpayments : db'.payments.get? p = db.payments.get? p)
    (hrequests : db'.paymentRequests = db.paymentRequests)
    (hview : ∀ payment request, db.payments.get? p = some payment →
      db.paymentRequests.get? payment.paymentRequestId = some request →
      viewOf db' p payment request = f (viewOf db p payment request)) :
    view db' p = (view db p).map f := by
  simp only [view, hpayments, hrequests]
  cases hp : db.payments.get? p with
  | none => rfl
  | some payment =>
    cases hr : db.paymentRequests.get? payment.paymentRequestId with
    | none => simp [hr]
    | some request => simp [hr, hview payment request hp hr]

lemma view_congr {db db' : Db} {p : PaymentId}
    (hpayments : db'.payments.get? p = db.payments.get? p)
    (hrequests : db'.paymentRequests = db.paymentRequests)
    (hview : ∀ payment request, db.payments.get? p = some payment →
      db.paymentRequests.get? payment.paymentRequestId = some request →
      viewOf db' p payment request = viewOf db p payment request) :
    view db' p = view db p := by
  rw [view_of_eq (f := id) hpayments hrequests hview, Option.map_id, id]

/-! ### Rows that belong together -/

/-- The references between the rows: every foreign key has its row, a reservation and its request
point at each other, and every row is filed under its own key. -/
structure Db.Sound (db : Db) : Prop where
  request : ∀ p payment, db.payments.get? p = some payment →
    ∃ request, db.paymentRequests.get? payment.paymentRequestId = some request
  reservation : ∀ i request r, db.paymentRequests.get? i = some request →
    request.budgetReservationId = some r →
    ∃ row, db.budgetReservations.get? r = some row ∧ row.paymentRequestId = i
  linked : ∀ r row, db.budgetReservations.get? r = some row →
    ∃ request, db.paymentRequests.get? row.paymentRequestId = some request ∧
      request.budgetReservationId = some r
  operation : ∀ o ∈ db.providerOperations.rows, o.Filed ∧ o.paymentId < db.payments.nextId
  transaction : ∀ t ∈ db.transactions.rows, t.Filed ∧ t.paymentId < db.payments.nextId
  journal : ∀ j ∈ db.ledgerJournals.rows, j.idempotencyKey.paymentId < db.payments.nextId
  approval : ∀ a ∈ db.approvals, a.paymentRequestId < db.paymentRequests.nextId

/-- The database step `db → db'` rewrites the view of `p` by `f` and shows nowhere else. -/
structure Effect (p : PaymentId) (f : PaymentView → PaymentView) (db db' : Db) : Prop where
  here : view db' p = (view db p).map f
  others : ∀ q, q ≠ p → view db' q = view db q
  sound : db'.Sound

lemma Effect.refl (p : PaymentId) {db : Db} (h : db.Sound) : Effect p id db db :=
  ⟨by simp, fun _ _ => rfl, h⟩

lemma Effect.trans {p : PaymentId} {f g : PaymentView → PaymentView} {db₁ db₂ db₃ : Db}
    (h₁ : Effect p f db₁ db₂) (h₂ : Effect p g db₂ db₃) :
    Effect p (fun v => g (f v)) db₁ db₃ where
  here := by rw [h₂.here, h₁.here, Option.map_map]; rfl
  others q hq := (h₂.others q hq).trans (h₁.others q hq)
  sound := h₂.sound

/-- The rewrite of an effect matters only at the view there is. -/
lemma Effect.congr {p : PaymentId} {f g : PaymentView → PaymentView} {db db' : Db}
    (h : Effect p f db db') (hfg : ∀ v, view db p = some v → f v = g v) : Effect p g db db' where
  here := by
    rw [h.here]
    cases hv : view db p with
    | none => rfl
    | some v => simp [hfg v hv]
  others := h.others
  sound := h.sound

/-- Every payment row has a view. -/
lemma Db.Sound.view_some {db : Db} (h : db.Sound) {p : PaymentId} {payment : Payment}
    (hp : db.payments.get? p = some payment) : ∃ v, view db p = some v := by
  obtain ⟨request, hr⟩ := h.request p payment hp
  exact ⟨_, view_eq_some.mpr ⟨payment, request, hp, hr, rfl⟩⟩

end AgentPay
