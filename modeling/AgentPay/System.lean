import AgentPay.Simulation.Worker
import AgentPay.Simulation.Lifecycle
import AgentPay.Simulation.Creation

/-!
# The running system

Any number of workers, API requests, webhook deliveries and operators on one database. A label is
one step of one of them, with everything the environment chooses; a step either commits or leaves
the database as it was. A process that crashes takes no further step.
-/

namespace AgentPay

open Support

/-! ### States -/

/-- How far a `process_one` call has come. -/
inductive Phase where
  /-- The payment is marked PROCESSING. -/
  | marked (claim : Worker.Claim)
  /-- No answer was durable, so the provider is called. -/
  | calling (claim : Worker.Claim)
  | answered (claim : Worker.Claim) (answer : ProviderAnswer)
  | finished
  deriving DecidableEq, Repr

/-- What a `process_one` call has read in its first phase. -/
def Phase.claim? : Phase → Option Worker.Claim
  | .marked c | .calling c | .answered c _ => some c
  | .finished => none

/-- How far a `create_payment` call has come. -/
inductive Creation where
  /-- Its transaction is open, and found no request under its key. -/
  | opened (i : Intake)
  /-- Its request row is inserted and not committed: others that want the key wait. -/
  | inserted (i : Intake)
  | finished
  deriving DecidableEq, Repr

/-- Whether a creation holds a key that others wait for. -/
def Creation.Holds (accountId key : String) : Creation → Prop
  | .inserted i => i.request.accountId = accountId ∧ i.idempotencyKey = key
  | _ => False

instance (accountId key : String) : DecidablePred (Creation.Holds accountId key) := fun c => by
  cases c <;> unfold Creation.Holds <;> infer_instance

/-- What one `create_payment` call was answered. -/
structure CreateAnswer where
  accountId : String
  idempotencyKey : Option String
  fingerprint : String
  result : Except Error CreateOutcome

/-- The database with what is in flight. `charged`, `decisions` and `answers` are history: the
payments that a charge was sent for, the state each created payment was decided in, and what the
creations were answered. -/
structure State where
  db : Db
  workers : List Phase
  creations : List Creation
  charged : List PaymentId
  decisions : List (PaymentId × Db)
  answers : List CreateAnswer

/-- Nothing in flight, and no history. -/
def State.start (db : Db) : State := ⟨db, [], [], [], [], []⟩

/-- What operators configure and no code writes. -/
structure Configuration where
  policies : List Policy
  policyVersions : List PolicyVersion
  wallets : List Wallet
  ledgerAccounts : List LedgerAccount
  paymentProviderAccounts : List PaymentProviderAccount

/-! ### Steps -/

inductive Action where
  | configure (configuration : Configuration)
  | mark (paymentId : PaymentId) (accounts : LedgerAccounts)
  | read (worker : ℕ)
  | charge (worker : ℕ) (answer : ProviderAnswer)
  | finalize (worker : ℕ)
  | webhook (now : ℤ) (delivery : Delivery)
  | capture (paymentId : PaymentId) (amount : Decimal) (currency : String)
      (accounts : LedgerAccounts) (outcome : ProviderOutcome)
  | void (paymentId : PaymentId) (amount : Decimal) (currency : String) (outcome : ProviderOutcome)
  | refund (paymentId : PaymentId) (amount : Decimal) (currency : String)
      (accounts : LedgerAccounts) (outcome : ProviderOutcome)
  | settle (report : SettlementReport)
  | openPayment (now : Time) (call : CreateCall)
  | insertRequest (creation : ℕ) (now : Time)
  | commitPayment (creation : ℕ) (now : Time)
  | abandonPayment (creation : ℕ)
  | approve (now : Time) (approvalId : ApprovalId) (reason authorization : Option String)
  | deny (approvalId : ApprovalId) (reason authorization : Option String)

namespace State

/-- The end of a unit of work. -/
def commit {α : Type} (s : State) (body : Except Error (α × Db)) : State :=
  { s with db := s.db.commit (body.map (·.2)) }

/-- What is logged of a creation that ends. -/
def answer (i : Intake) (result : Except Error CreateOutcome) : CreateAnswer :=
  ⟨i.request.accountId, some i.idempotencyKey, i.fingerprint, result⟩

/-- The transaction of a creation runs to its end. -/
def accepted (env : Env) (now : Time) (s : State) (creation : ℕ) (i : Intake) : State :=
  match acceptPayment env now s.db i with
  | .ok (outcome, db) =>
    { s with
      db
      creations := s.creations.set creation .finished
      decisions := s.decisions ++ [(s.db.payments.nextId, s.db)]
      answers := s.answers ++ [answer i (.ok outcome)] }
  | .error e =>
    { s with
      creations := s.creations.set creation .finished
      answers := s.answers ++ [answer i (.error e)] }

/-- The insert of the request: it waits for a creation that holds the key, and otherwise finds the
key taken or takes it. -/
def insert (env : Env) (now : Time) (s : State) (creation : ℕ) (i : Intake) : State :=
  if s.creations.any fun c => Creation.Holds i.request.accountId i.idempotencyKey c then s
  else
    match PaymentRepository.findByIdempotency s.db i.request.accountId i.idempotencyKey with
    | some _ => s.accepted env now creation i
    | none => { s with creations := s.creations.set creation (.inserted i) }

/-- One step of the system. -/
def step (env : Env) (s : State) : Action → State
  | .configure c =>
    { s with db := { s.db with
        policies := c.policies, policyVersions := c.policyVersions, wallets := c.wallets,
        ledgerAccounts := c.ledgerAccounts,
        paymentProviderAccounts := c.paymentProviderAccounts } }
  | .mark p accounts =>
    match Worker.mark s.db p accounts with
    | .ok (claim, db) => { s with db, workers := s.workers ++ [.marked claim] }
    | .error _ => s
  | .read w =>
    match s.workers[w]? with
    | some (.marked claim) =>
      match Worker.durable s.db claim.paymentId with
      | some answer => { s with workers := s.workers.set w (.answered claim answer) }
      | none => { s with workers := s.workers.set w (.calling claim) }
    | _ => s
  | .charge w answer =>
    match s.workers[w]? with
    | some (.calling claim) =>
      { s with
        workers := s.workers.set w (.answered claim answer)
        charged := s.charged ++ [claim.paymentId] }
    | _ => s
  | .finalize w =>
    match s.workers[w]? with
    | some (.answered claim answer) =>
      { s.commit (Worker.finalize s.db claim answer) with
        workers := s.workers.set w .finished }
    | _ => s
  | .webhook now delivery => s.commit (providerWebhook env.replayWindow now s.db delivery)
  | .capture p amount currency accounts outcome =>
    s.commit (PaymentLifecycle.capture s.db p amount currency accounts >>= Progress.answer outcome)
  | .void p amount currency outcome =>
    s.commit (PaymentLifecycle.void s.db p amount currency >>= Progress.answer outcome)
  | .refund p amount currency accounts outcome =>
    s.commit (PaymentLifecycle.refund s.db p amount currency accounts >>= Progress.answer outcome)
  | .settle report => s.commit (SettlementRepository.ingest s.db report)
  | .openPayment now call =>
    match AgentPay.openPayment env now s.db call with
    | .answered result =>
      { s with answers := s.answers ++ [⟨call.request.accountId, call.idempotencyKey,
          requestFingerprint env call.request, result⟩] }
    | .intake i => { s with creations := s.creations ++ [.opened i] }
  | .insertRequest c now =>
    match s.creations[c]? with
    | some (.opened i) => s.insert env now c i
    | _ => s
  | .commitPayment c now =>
    match s.creations[c]? with
    | some (.inserted i) => s.accepted env now c i
    | _ => s
  | .abandonPayment c => { s with creations := s.creations.set c .finished }
  | .approve now id reason authorization =>
    s.commit (approvePayment env now s.db id reason authorization)
  | .deny id reason authorization => s.commit (denyPayment env s.db id reason authorization)

end State

/-! ### Which payment a step is about -/

/-- The payment a delivery is applied to, with its outcome. -/
def Delivery.target (window : Option ℤ) (now : ℤ) (db : Db) (delivery : Delivery) :
    Option (PaymentId × ProviderOutcome) :=
  match readPayload window now delivery with
  | .ok (eventId, eventType, providerReference) =>
    eventTarget db delivery.providerName eventId eventType providerReference
  | .error _ => none

/-- The payment a step is about, with the operation of its machine. -/
def Action.target (env : Env) (s : State) : Action → Option (PaymentId × PaymentOp)
  | .mark p _ => some (p, .mark)
  | .finalize w =>
    match s.workers[w]? with
    | some (.answered claim answer) => some (claim.paymentId, .finalize answer.outcome)
    | _ => none
  | .webhook now delivery =>
    (delivery.target env.replayWindow now s.db).map fun (p, outcome) => (p, .event outcome)
  | .capture p _ _ _ outcome => some (p, .capture outcome)
  | .void p _ _ outcome => some (p, .void outcome)
  | .refund p _ _ _ outcome => some (p, .refund outcome)
  | .approve _ id _ _ => (approvalTarget s.db id).map (·, .approve)
  | .deny id _ _ => (approvalTarget s.db id).map (·, .deny)
  | _ => none

end AgentPay
