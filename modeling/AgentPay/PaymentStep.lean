import AgentPay.Effects
import AgentPay.Api
import AgentPay.Settlement

/-!
# The payment state machine

The abstract machine of one payment: `PaymentStep op v v'` is what an operation of the system may
do to the view `v` of the payment it is about. The lemmas below say of every function of the
source that it does nothing else, and shows in the view of no other payment.
-/

namespace AgentPay

open Support

/-! ### Steps of the abstract machine -/

/-- The operations that reach a payment. -/
inductive PaymentOp where
  | mark
  | finalize (outcome : ProviderOutcome)
  | event (outcome : ProviderOutcome)
  | capture (outcome : ProviderOutcome)
  | void (outcome : ProviderOutcome)
  | refund (outcome : ProviderOutcome)
  | approve
  | deny
  deriving DecidableEq, Repr

namespace PaymentView

/-- The worker takes the payment up. -/
def mark (v : PaymentView) : PaymentView :=
  { v with status := .processing, charge := some (v.charge.getD false) }

/-- The status alone changes. -/
def withStatus (status : PaymentStatus) (v : PaymentView) : PaymentView := { v with status }

/-- The charge failed. -/
def fail (v : PaymentView) : PaymentView :=
  { v with
    status := .failed
    charge := v.charge.map fun _ => true
    reservation := v.reservation.map fun r => (r.1, r.2.settle .released) }

/-- The capture is on the books, under the key of `path`. -/
def postCapture (path : CapturePath) (v : PaymentView) : PaymentView :=
  { v with
    transactions := v.transactions.postCapture path v.amount
    journals := v.journals.postCapture v.amount }

/-- The charge succeeded. -/
def succeed (path : CapturePath) (v : PaymentView) : PaymentView :=
  { v.postCapture path with
    status := .succeeded
    charge := v.charge.map fun _ => true
    reservation := v.reservation.map fun r => (r.1, r.2.settle .consumed) }

/-- The refund row under key `k`, the payment now in `status`. -/
def putRefund (k : Decimal × String) (rowStatus : TransactionStatus) (amount : Amount)
    (status : PaymentStatus) (v : PaymentView) : PaymentView :=
  { v with status, transactions := v.transactions.putRefund k rowStatus amount }

/-- The refund under key `k` is on the books; its journal is filed under the currency as it was
spelled. -/
def postRefund (k : Decimal × String) (rawCurrency : String) (amount : Amount)
    (status : PaymentStatus) (v : PaymentView) : PaymentView :=
  { v.putRefund k .posted amount status with
    journals := v.journals.postRefund (k.1, rawCurrency) amount }

/-- What `refund` checks before it calls the provider: a captured payment, an amount within what
is left, and a key that is not settled yet. -/
structure Refundable (v : PaymentView) (k : Decimal × String) (rawCurrency : String)
    (amount : Amount) : Prop where
  status : v.status = .succeeded ∨ v.status = .refundFailed ∨ v.status = .refunded
  currency : k.2 = normCurrency rawCurrency
  pos : 0 < k.1.units
  within : k.1.units ≤ v.transactions.captured - v.transactions.refunded
  unsettled : v.transactions.refund k = none ∨ v.transactions.refund k = some .pending
  amount : Amount.store k.1 = .ok amount

end PaymentView

/-- What an operation may do to the payment it is about. -/
inductive PaymentStep : PaymentOp → PaymentView → PaymentView → Prop where
  | mark {v} (hres : v.reservation.isSome) : PaymentStep .mark v v.mark
  | finalizeUnknown {v} (h : v.status.Executable) (hcharge : v.charge.isSome)
      (hres : v.reservation.isSome) :
      PaymentStep (.finalize .unknown) v (v.withStatus .unknownExternalOutcome)
  | finalizeFailed {v} (h : v.status.Executable) (hcharge : v.charge.isSome)
      (hres : v.reservation.isSome) :
      PaymentStep (.finalize .failed) v v.fail
  | finalizeSucceeded {v} (h : v.status.Executable) (hcharge : v.charge.isSome)
      (hres : v.reservation.isSome) :
      PaymentStep (.finalize .succeeded) v (v.succeed .direct)
  | eventFailed {v} (h : v.status.Resolvable) (hcharge : v.charge.isSome) :
      PaymentStep (.event .failed) v v.fail
  | eventSucceeded {v} (h : v.status.Resolvable) (hcharge : v.charge.isSome)
      (hres : v.reservation.isSome) : PaymentStep (.event .succeeded) v (v.succeed .event)
  | captureUnknown {v} (h : v.status = .authorized) :
      PaymentStep (.capture .unknown) v (v.withStatus .unknownExternalOutcome)
  | captureFailed {v} (h : v.status = .authorized) :
      PaymentStep (.capture .failed) v (v.withStatus .failed)
  | captureSucceeded {v} (h : v.status = .authorized) :
      PaymentStep (.capture .succeeded) v ((v.postCapture .direct).withStatus .succeeded)
  | voidUnknown {v} (h : v.status = .authorized) :
      PaymentStep (.void .unknown) v (v.withStatus .unknownExternalOutcome)
  | voidFailed {v} (h : v.status = .authorized) :
      PaymentStep (.void .failed) v (v.withStatus .voidFailed)
  | voidSucceeded {v} (h : v.status = .authorized) :
      PaymentStep (.void .succeeded) v (v.withStatus .voided)
  | refundUnknown {v k rawCurrency amount} (h : v.Refundable k rawCurrency amount) :
      PaymentStep (.refund .unknown) v (v.putRefund k .pending amount .unknownExternalOutcome)
  | refundFailed {v k rawCurrency amount} (h : v.Refundable k rawCurrency amount) :
      PaymentStep (.refund .failed) v (v.putRefund k .failed amount .refundFailed)
  | refundSucceeded {v k rawCurrency amount} (h : v.Refundable k rawCurrency amount) :
      PaymentStep (.refund .succeeded) v
        (v.postRefund k rawCurrency amount
          (if (v.transactions.captured : ℚ) - (v.transactions.refunded + k.1.units) = 0
            then .refunded else .succeeded))
  | approve {v} (hpending : 0 < v.pending) (h : v.status = .approvalRequired)
      (id : ReservationId) :
      PaymentStep .approve v
        { v with status := .processing, pending := v.pending - 1,
                 reservation := some (id, .reserved) }
  | deny {v} (hpending : 0 < v.pending) :
      PaymentStep .deny v { v with status := .failed, pending := v.pending - 1 }

/-- A database step that is a step of the machine of payment `p`, or no step at all. -/
def Moves (op : PaymentOp) (p : PaymentId) (db db' : Db) : Prop :=
  ∃ f, Effect p f db db' ∧ ∀ v, view db p = some v → f v = v ∨ PaymentStep op v (f v)

lemma Moves.refl (op : PaymentOp) (p : PaymentId) {db : Db} (h : db.Sound) : Moves op p db db :=
  ⟨id, Effect.refl p h, fun _ _ => .inl rfl⟩

/-- An effect that rewrites the view there is by a step. -/
lemma Moves.of_effect {op : PaymentOp} {p : PaymentId} {db db' : Db}
    {f g : PaymentView → PaymentView} {v : PaymentView} (hv : view db p = some v)
    (h : Effect p f db db') (hf : f v = g v) (hstep : PaymentStep op v (g v)) :
    Moves op p db db' := by
  refine ⟨f, h, fun v' hv' => ?_⟩
  obtain rfl : v = v' := by simpa [hv] using hv'
  exact .inr (hf ▸ hstep)

lemma view_lt {db : Db} {p : PaymentId} {v : PaymentView} (h : view db p = some v) :
    p < db.payments.nextId := by
  obtain ⟨payment, -, hp, -⟩ := view_eq_some.mp h
  exact Table.get?_lt hp

/-- The view after an effect. -/
lemma Effect.view_some {p : PaymentId} {f : PaymentView → PaymentView} {db db' : Db}
    (h : Effect p f db db') {v : PaymentView} (hv : view db p = some v) :
    view db' p = some (f v) := by
  rw [h.here, hv, Option.map_some]

/-- An effect on a payment that no view of can be told apart. -/
lemma Effect.of_unseen {db db' : Db} (p : PaymentId) (h : ∀ q, view db' q = view db q)
    (hs : db'.Sound) : Effect p id db db' :=
  ⟨by simp [h], fun q _ => h q, hs⟩

end AgentPay
