import AgentPay.Service

/-!
# Calls of the payment service

`create_payment` as it runs: the budget's sums and differences are rounded by the decimal context,
and the provider may raise. Where the digits suffice and the provider answers it is the
`createPayment` of `Service`.
-/

namespace AgentPay

open Support

/-! ### The decimal context -/

/-- `int(…)`: towards zero. -/
def truncate (q : ℚ) : ℤ := if 0 ≤ q then ⌊q⌋ else ⌈q⌉

namespace MemoryBudget

/-- `available`, rounded twice. -/
def roundedAvailable (b : MemoryBudget) : ℚ :=
  context (context (b.limit - b.consumed) - b.reserved)

/-- `reserve` under the context. -/
def roundedReserve (b : MemoryBudget) (amount : Decimal) : Except Error (Bool × MemoryBudget) :=
  if amount.units ≤ 0 then .error (.valueError "reservation amount must be positive")
  else if b.roundedAvailable < amount.units then .ok (false, b)
  else .ok (true, { b with reserved := context (b.reserved + amount.units) })

/-- `release` under the context. -/
def roundedRelease (b : MemoryBudget) (amount : Decimal) : Except Error MemoryBudget :=
  if b.reserved < amount.units then .error (.valueError "cannot release more than reserved")
  else .ok { b with reserved := context (b.reserved - amount.units) }

/-- `consume` under the context. -/
def roundedConsume (b : MemoryBudget) (amount : Decimal) : Except Error MemoryBudget :=
  if b.reserved < amount.units then .error (.valueError "cannot consume more than reserved")
  else .ok { b with
    reserved := context (b.reserved - amount.units),
    consumed := context (b.consumed + amount.units) }

/-- 28 digits are enough for an amount: it is compared with what is really available, and where it
is reserved the counters take it and give it back exactly. -/
def Fits (b : MemoryBudget) (amount : Decimal) : Prop :=
  (b.roundedAvailable < amount.units ↔ b.available < amount.units) ∧
    (amount.units ≤ b.available →
      context (b.reserved + amount.units) = b.reserved + amount.units ∧
      context b.reserved = b.reserved ∧
      context (b.consumed + amount.units) = b.consumed + amount.units)

instance (b : MemoryBudget) (amount : Decimal) : Decidable (b.Fits amount) :=
  inferInstanceAs (Decidable (_ ∧ _))

/-- The budget while an amount is reserved. -/
def holding (b : MemoryBudget) (amount : Decimal) : MemoryBudget :=
  { b with reserved := b.reserved + amount.units }

/-- The budget after an amount is consumed. -/
def spending (b : MemoryBudget) (amount : Decimal) : MemoryBudget :=
  { b with consumed := b.consumed + amount.units }

/-- The budget after the provider has answered for an amount. -/
def settled (b : MemoryBudget) (amount : Decimal) : ProviderOutcome → MemoryBudget
  | .succeeded => b.spending amount
  | .failed    => b
  | .unknown   => b.holding amount

variable {b : MemoryBudget} {amount : Decimal}

lemma Fits.reserve_eq (h : b.Fits amount) : b.roundedReserve amount = b.reserve amount := by
  simp only [roundedReserve, reserve, h.1]
  split_ifs with hpos havailable
  · rfl
  · rfl
  · rw [(h.2 (not_lt.mp havailable)).1]

lemma reserve_eq_ok {available : Bool} {b' : MemoryBudget} :
    b.reserve amount = .ok (available, b') ↔
      0 < amount.units ∧ ((available = false ∧ b.available < amount.units ∧ b' = b) ∨
        (available = true ∧ amount.units ≤ b.available ∧ b' = b.holding amount)) := by
  simp only [reserve, holding]
  split_ifs with hpos havailable
  · simp [not_lt.mpr hpos]
  · simp [not_le.mp hpos, havailable, eq_comm]
  · simp [not_le.mp hpos, not_lt.mp havailable, havailable, eq_comm]

/-- What was just reserved can be released: the budget is as before. -/
lemma Fits.release_holding (h : b.Fits amount) (hle : amount.units ≤ b.available)
    (hreserved : 0 ≤ b.reserved) : (b.holding amount).roundedRelease amount = .ok b := by
  have hnot : ¬ b.reserved + amount.units < amount.units := by linarith
  simp only [roundedRelease, holding, if_neg hnot, add_sub_cancel_right, (h.2 hle).2.1]

/-- Or consumed. -/
lemma Fits.consume_holding (h : b.Fits amount) (hle : amount.units ≤ b.available)
    (hreserved : 0 ≤ b.reserved) :
    (b.holding amount).roundedConsume amount = .ok (b.spending amount) := by
  have hnot : ¬ b.reserved + amount.units < amount.units := by linarith
  simp only [roundedConsume, holding, spending, if_neg hnot, add_sub_cancel_right,
    (h.2 hle).2.1, (h.2 hle).2.2]

end MemoryBudget

/-! ### The call -/

/-- The charge `_execute` sends, its amount multiplied under the context. -/
def ServiceIntent.contextCharge (i : ServiceIntent) : ServiceCharge :=
  { i.charge with amountMinor := truncate (context (i.amount.units / 100)) }

/-- What the other side does with one call of the service: `route` is what `_provider_for` raises,
`charge` what the provider returns or raises. -/
structure ServiceTurn where
  intent : ServiceIntent
  route : Except Error Unit
  charge : ServiceCharge → Except Error ProviderOutcome

namespace PaymentService

/-- `_execute` -/
def executeWith (s : PaymentService) (turn : ServiceTurn) (decision : Decision) : ServiceCall :=
  let intent := turn.intent
  let sent := intent.contextCharge
  match turn.charge sent with
  | .error e => ⟨s, some sent, .error e⟩
  | .ok .succeeded =>
    match s.budget.roundedConsume intent.amount with
    | .error e => ⟨s, some sent, .error e⟩
    | .ok budget => ⟨{ s with budget }, some sent, .ok ⟨intent.paymentId, .succeeded, decision⟩⟩
  | .ok .failed =>
    match s.budget.roundedRelease intent.amount with
    | .error e => ⟨s, some sent, .error e⟩
    | .ok budget => ⟨{ s with budget }, some sent, .ok ⟨intent.paymentId, .failed, decision⟩⟩
  | .ok .unknown =>
    ⟨s, some sent, .ok ⟨intent.paymentId, .unknownExternalOutcome, decision⟩⟩

/-- `self.policy.evaluate(intent)` -/
def decide (s : PaymentService) (intent : ServiceIntent) : Decision :=
  (s.policy.evaluateWithTrace intent.toPaymentIntent none).decision

/-- The branch of an intent that policy allows: routing first, then the budget. -/
def proceed (s : PaymentService) (turn : ServiceTurn) (decision : Decision) : ServiceCall :=
  match turn.route with
  | .error e => ⟨s, none, .error e⟩
  | .ok () =>
    match s.budget.roundedReserve turn.intent.amount with
    | .error e => ⟨s, none, .error e⟩
    | .ok (false, _) => ⟨s, none, .ok ⟨turn.intent.paymentId, .failed, .deny⟩⟩
    | .ok (true, budget) => { s with budget }.executeWith turn decision

/-- `create_payment` -/
def createPaymentWith (s : PaymentService) (turn : ServiceTurn) : ServiceCall :=
  let intent := turn.intent
  match s.idempotency.lookup intent.idempotencyKey with
  | some (fingerprint, result) =>
    if fingerprint ≠ intent.fingerprint then
      ⟨s, none, .error (.valueError "idempotency key conflict")⟩
    else ⟨s, none, .ok result⟩
  | none =>
    let decision := s.decide intent
    remember intent <|
      match decision with
      | .deny => ⟨s, none, .ok ⟨intent.paymentId, .failed, decision⟩⟩
      | .requireApproval => ⟨s, none, .ok ⟨intent.paymentId, .approvalRequired, decision⟩⟩
      | .allowAuto | .allowNotify => s.proceed turn decision

/-- The call goes to the provider: its key is new, policy allows the intent, a provider serves it
and the budget has the amount. -/
structure Reaches (s : PaymentService) (turn : ServiceTurn) : Prop where
  fresh : s.idempotency.lookup turn.intent.idempotencyKey = none
  allowed : s.decide turn.intent = .allowAuto ∨ s.decide turn.intent = .allowNotify
  routed : turn.route = .ok ()
  positive : 0 < turn.intent.amount.units
  available : turn.intent.amount.units ≤ s.budget.available

/-- What a call can be, where the amount fits. -/
inductive Turns (s : PaymentService) (turn : ServiceTurn) : ServiceCall → Prop
  /-- A known key, no route, or an amount of nothing: the service is as before. -/
  | kept (result : Except Error PaymentResult) (h : ¬ s.Reaches turn) :
      Turns s turn ⟨s, none, result⟩
  /-- Policy or budget turn the intent away, which is remembered. -/
  | refused (result : PaymentResult)
      (fresh : s.idempotency.lookup turn.intent.idempotencyKey = none)
      (status : result.status = .failed ∨ result.status = .approvalRequired)
      (h : ¬ s.Reaches turn) : Turns s turn (remember turn.intent ⟨s, none, .ok result⟩)
  /-- The provider is asked. -/
  | reached (decision : Decision) (h : s.Reaches turn) :
      Turns s turn (remember turn.intent
        ({ s with budget := s.budget.holding turn.intent.amount }.executeWith turn decision))

variable {s : PaymentService} {turn : ServiceTurn}

lemma not_reaches_of_decision {decision : Decision} (h : s.decide turn.intent = decision)
    (hauto : decision ≠ .allowAuto) (hnotify : decision ≠ .allowNotify) : ¬ s.Reaches turn := by
  intro hreaches
  rcases hreaches.allowed with hallowed | hallowed
  · exact hauto (h.symm.trans hallowed)
  · exact hnotify (h.symm.trans hallowed)

/-- An intent that policy allows. -/
lemma admit_turns (hfits : s.budget.Fits turn.intent.amount)
    (hfresh : s.idempotency.lookup turn.intent.idempotencyKey = none)
    (hallowed : s.decide turn.intent = .allowAuto ∨ s.decide turn.intent = .allowNotify) :
    s.Turns turn (remember turn.intent (s.proceed turn (s.decide turn.intent))) := by
  rw [proceed]
  cases hroute : turn.route with
  | error e =>
    refine .kept _ fun hreaches => ?_
    rw [hreaches.routed] at hroute
    cases hroute
  | ok =>
    rw [hfits.reserve_eq]
    cases hreserve : s.budget.reserve turn.intent.amount with
    | error e =>
      refine .kept _ fun hreaches => ?_
      have hok := MemoryBudget.reserve_eq_ok.mpr
        ⟨hreaches.positive, .inr ⟨rfl, hreaches.available, rfl⟩⟩
      rw [hok] at hreserve
      cases hreserve
    | ok reserved =>
      obtain ⟨available, budget⟩ := reserved
      obtain ⟨hpositive, ⟨rfl, hless, rfl⟩ | ⟨rfl, hle, rfl⟩⟩ :=
        MemoryBudget.reserve_eq_ok.mp hreserve
      · exact .refused _ hfresh (.inl rfl) fun hreaches =>
          absurd hreaches.available (not_le.mpr hless)
      · exact .reached _ ⟨hfresh, hallowed, hroute, hpositive, hle⟩

/-- Every call is one of the three. -/
lemma createPaymentWith_turns (hfits : s.budget.Fits turn.intent.amount) :
    s.Turns turn (s.createPaymentWith turn) := by
  rw [createPaymentWith]
  cases hfresh : s.idempotency.lookup turn.intent.idempotencyKey with
  | some previous =>
    have hnot : ¬ s.Reaches turn := fun hreaches => by
      rw [hreaches.fresh] at hfresh
      cases hfresh
    simp only
    split_ifs
    · exact .kept _ hnot
    · exact .kept _ hnot
  | none =>
    simp only
    split
    · rename_i hdecision
      exact .refused _ hfresh (.inl rfl) (not_reaches_of_decision hdecision (by decide) (by decide))
    · rename_i hdecision
      exact .refused _ hfresh (.inr rfl) (not_reaches_of_decision hdecision (by decide) (by decide))
    · rename_i hdecision
      exact hdecision ▸ admit_turns hfits hfresh (.inl hdecision)
    · rename_i hdecision
      exact hdecision ▸ admit_turns hfits hfresh (.inr hdecision)

/-! ### What the provider's answer does -/

/-- The provider raises: the amount stays reserved and nothing is remembered. -/
lemma executeWith_raised {decision : Decision} {e : Error}
    (h : turn.charge turn.intent.contextCharge = .error e) :
    s.executeWith turn decision = ⟨s, some turn.intent.contextCharge, .error e⟩ := by
  simp only [executeWith, h]

/-- The provider answers: the amount moves to where the outcome belongs. -/
lemma executeWith_answered (turn : ServiceTurn) {decision : Decision} {outcome : ProviderOutcome}
    (hfits : s.budget.Fits turn.intent.amount)
    (hle : turn.intent.amount.units ≤ s.budget.available) (hreserved : 0 ≤ s.budget.reserved)
    (h : turn.charge turn.intent.contextCharge = .ok outcome) :
    { s with budget := s.budget.holding turn.intent.amount }.executeWith turn decision =
      ⟨{ s with budget := s.budget.settled turn.intent.amount outcome },
        some turn.intent.contextCharge,
        .ok ⟨turn.intent.paymentId, outcome.paymentStatus, decision⟩⟩ := by
  cases outcome with
  | succeeded =>
    simp only [executeWith, h, hfits.consume_holding hle hreserved]
    rfl
  | failed =>
    simp only [executeWith, h, hfits.release_holding hle hreserved]
    rfl
  | unknown =>
    simp only [executeWith, h]
    rfl

lemma execute_holding {intent : ServiceIntent} {decision : Decision} {outcome : ProviderOutcome}
    (hreserved : 0 ≤ s.budget.reserved) :
    { s with budget := s.budget.holding intent.amount }.execute intent decision outcome =
      ⟨{ s with budget := s.budget.settled intent.amount outcome }, some intent.charge,
        .ok ⟨intent.paymentId, outcome.paymentStatus, decision⟩⟩ := by
  have hnot : ¬ s.budget.reserved + intent.amount.units < intent.amount.units := by linarith
  cases outcome with
  | succeeded =>
    simp only [execute, MemoryBudget.consume, MemoryBudget.holding, if_neg hnot,
      add_sub_cancel_right]
    rfl
  | failed =>
    simp only [execute, MemoryBudget.release, MemoryBudget.holding, if_neg hnot,
      add_sub_cancel_right]
    rfl
  | unknown => rfl

/-- Where the digits suffice and the provider answers, this is `createPayment`. -/
theorem createPaymentWith_eq_createPayment {intent : ServiceIntent} {route : Except Error Unit}
    {answer : ProviderOutcome} (hfits : s.budget.Fits intent.amount)
    (hreserved : 0 ≤ s.budget.reserved) (hminor : intent.contextCharge = intent.charge) :
    s.createPaymentWith ⟨intent, route, fun _ => .ok answer⟩ =
      s.createPayment intent route answer := by
  have hanswered (decision : Decision) (hle : intent.amount.units ≤ s.budget.available) :
      { s with budget := s.budget.holding intent.amount }.executeWith
          ⟨intent, .ok (), fun _ => .ok answer⟩ decision =
        { s with budget := s.budget.holding intent.amount }.execute intent decision answer := by
    rw [execute_holding hreserved, ← hminor]
    exact executeWith_answered _ hfits hle hreserved rfl
  simp only [createPaymentWith, createPayment, decide]
  cases s.idempotency.lookup intent.idempotencyKey with
  | some previous => rfl
  | none =>
    generalize (s.policy.evaluateWithTrace intent.toPaymentIntent none).decision = decision
    cases decision with
    | deny | requireApproval => rfl
    | allowAuto | allowNotify =>
      simp only [proceed, hfits.reserve_eq]
      cases route with
      | error e => rfl
      | ok =>
        cases hreserve : s.budget.reserve intent.amount with
        | error e => rfl
        | ok reserved =>
          obtain ⟨available, budget⟩ := reserved
          obtain ⟨-, ⟨rfl, -, rfl⟩ | ⟨rfl, hle, rfl⟩⟩ := MemoryBudget.reserve_eq_ok.mp hreserve
          · rfl
          · exact congrArg (remember intent) (hanswered _ hle)

end PaymentService

end AgentPay
