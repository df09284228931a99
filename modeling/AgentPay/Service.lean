import AgentPay.Policy
import AgentPay.Worker

/-!
# The in-memory payment service

`service.py` with the budget of `budget.py`: policy, budget, provider and idempotency in one
process, without a database. A call that raises keeps what it has written before.
-/

namespace AgentPay

/-! ### The budget -/

/-- `budget.Budget`, in ten-thousandths. -/
structure MemoryBudget where
  limit : ℚ
  consumed : ℚ
  reserved : ℚ
  deriving DecidableEq, Repr

namespace MemoryBudget

def available (b : MemoryBudget) : ℚ := b.limit - b.consumed - b.reserved

/-- `reserve`: whether the amount was available. -/
def reserve (b : MemoryBudget) (amount : Decimal) : Except Error (Bool × MemoryBudget) :=
  if amount.units ≤ 0 then .error (.valueError "reservation amount must be positive")
  else if b.available < amount.units then .ok (false, b)
  else .ok (true, { b with reserved := b.reserved + amount.units })

/-- `release` -/
def release (b : MemoryBudget) (amount : Decimal) : Except Error MemoryBudget :=
  if b.reserved < amount.units then .error (.valueError "cannot release more than reserved")
  else .ok { b with reserved := b.reserved - amount.units }

/-- `consume` -/
def consume (b : MemoryBudget) (amount : Decimal) : Except Error MemoryBudget :=
  if b.reserved < amount.units then .error (.valueError "cannot consume more than reserved")
  else .ok { b with
    reserved := b.reserved - amount.units, consumed := b.consumed + amount.units }

end MemoryBudget

/-! ### The service -/

/-- `domain.PaymentIntent` with its `Money`. -/
structure ServiceIntent extends PaymentIntent where
  paymentId : String
  agentId : String
  idempotencyKey : String
  nonneg : 0 ≤ amount.coeff
  iso : currency.length = 3
  deriving DecidableEq, Repr

/-- `fingerprint`: amounts are compared by value. -/
def ServiceIntent.fingerprint (i : ServiceIntent) : String × String × ℚ × String × String :=
  (i.agentId, i.merchantDomain, i.amount.units, i.currency, i.paymentId)

/-- `PaymentResult` -/
structure PaymentResult where
  paymentId : String
  status : PaymentStatus
  decision : Decision
  deriving DecidableEq, Repr

/-- The arguments of `provider.charge`. -/
structure ServiceCharge where
  paymentId : String
  amountMinor : ℤ
  currency : String
  idempotencyKey : String
  deriving DecidableEq, Repr

/-- The charge `_execute` sends. -/
def ServiceIntent.charge (i : ServiceIntent) : ServiceCharge :=
  { paymentId := i.paymentId, amountMinor := amountMinor i.amount, currency := i.currency,
    idempotencyKey := "payment:" ++ i.paymentId ++ ":charge" }

structure PaymentService where
  policy : SpendingPolicy
  budget : MemoryBudget
  idempotency : List (String × (String × String × ℚ × String × String) × PaymentResult)

/-- What a call leaves behind: the service, the charge it sent and what it returns or raises. -/
structure ServiceCall where
  service : PaymentService
  charge : Option ServiceCharge
  result : Except Error PaymentResult

namespace PaymentService

/-- `_execute`, the provider answering `answer`. -/
def execute (s : PaymentService) (intent : ServiceIntent) (decision : Decision)
    (answer : ProviderOutcome) : ServiceCall :=
  match answer with
  | .succeeded =>
    match s.budget.consume intent.amount with
    | .error e => ⟨s, some intent.charge, .error e⟩
    | .ok budget =>
      ⟨{ s with budget }, some intent.charge, .ok ⟨intent.paymentId, .succeeded, decision⟩⟩
  | .failed =>
    match s.budget.release intent.amount with
    | .error e => ⟨s, some intent.charge, .error e⟩
    | .ok budget =>
      ⟨{ s with budget }, some intent.charge, .ok ⟨intent.paymentId, .failed, decision⟩⟩
  | .unknown => ⟨s, some intent.charge, .ok ⟨intent.paymentId, .unknownExternalOutcome, decision⟩⟩

/-- `self._idempotency[key] = …` after a call that returns. -/
def remember (intent : ServiceIntent) (call : ServiceCall) : ServiceCall :=
  match call.result with
  | .error _ => call
  | .ok result =>
    { call with
      service := { call.service with
        idempotency :=
          (intent.idempotencyKey, intent.fingerprint, result) :: call.service.idempotency } }

/-- `create_payment`. `route` is what `_provider_for` raises when no provider serves the intent. -/
def createPayment (s : PaymentService) (intent : ServiceIntent) (route : Except Error Unit)
    (answer : ProviderOutcome) : ServiceCall :=
  match s.idempotency.lookup intent.idempotencyKey with
  | some (fingerprint, result) =>
    if fingerprint ≠ intent.fingerprint then
      ⟨s, none, .error (.valueError "idempotency key conflict")⟩
    else ⟨s, none, .ok result⟩
  | none =>
    let decision := (s.policy.evaluateWithTrace intent.toPaymentIntent none).decision
    remember intent <|
      match decision with
      | .deny => ⟨s, none, .ok ⟨intent.paymentId, .failed, decision⟩⟩
      | .requireApproval => ⟨s, none, .ok ⟨intent.paymentId, .approvalRequired, decision⟩⟩
      | .allowAuto | .allowNotify =>
        match route with
        | .error e => ⟨s, none, .error e⟩
        | .ok () =>
          match s.budget.reserve intent.amount with
          | .error e => ⟨s, none, .error e⟩
          | .ok (false, _) => ⟨s, none, .ok ⟨intent.paymentId, .failed, .deny⟩⟩
          | .ok (true, budget) => { s with budget }.execute intent decision answer

/-! ### What is remembered -/

lemma remember_charge (intent : ServiceIntent) (call : ServiceCall) :
    (remember intent call).charge = call.charge := by
  rw [remember]
  split <;> rfl

lemma remember_budget (intent : ServiceIntent) (call : ServiceCall) :
    (remember intent call).service.budget = call.service.budget := by
  rw [remember]
  split <;> rfl

lemma remember_result (intent : ServiceIntent) (call : ServiceCall) :
    (remember intent call).result = call.result := by
  rw [remember]
  split <;> rfl

end PaymentService

end AgentPay
