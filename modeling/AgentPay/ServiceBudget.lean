import AgentPay.ServiceKeys

/-!
# Budget conservation

Over any sequence of calls the budget of the payment service is what its results say, as long as
no charge raises: an exception between `reserve` and the recording of the result leaves the amount
reserved with no result to account for it.
-/

namespace AgentPay

open Support

/-- `Money` refuses a negative value. -/
lemma ServiceIntent.units_nonneg (i : ServiceIntent) : 0 ≤ i.amount.units := by
  have hcoeff : (0 : ℚ) ≤ i.amount.coeff := by exact_mod_cast i.nonneg
  rw [Decimal.units]
  positivity

namespace PaymentService

/-- The amounts of the results on record with a status. -/
def recordedTotal (s : PaymentService) (status : PaymentStatus) : ℚ :=
  (s.idempotency.map fun entry =>
    if entry.2.2.status = status then entry.2.1.2.2.1 else 0).sum

/-- The budget is what the results on record say, within its limit. -/
structure Conserved (s : PaymentService) : Prop where
  consumed : s.budget.consumed = s.recordedTotal .succeeded
  reserved : s.budget.reserved = s.recordedTotal .unknownExternalOutcome
  limit : s.budget.consumed + s.budget.reserved ≤ s.budget.limit

/-- One call, as the service sees it afterwards. -/
def step (s : PaymentService) (turn : ServiceTurn) : PaymentService :=
  (s.createPaymentWith turn).service

/-- If the call goes to the provider, the provider does not raise. -/
def Answered (s : PaymentService) (turn : ServiceTurn) : Prop :=
  s.Reaches turn → ∃ outcome, turn.charge turn.intent.contextCharge = .ok outcome

/-- 28 digits are enough for the amount of the call. -/
def Fits (s : PaymentService) (turn : ServiceTurn) : Prop := s.budget.Fits turn.intent.amount

instance (s : PaymentService) (turn : ServiceTurn) : Decidable (s.Fits turn) :=
  inferInstanceAs (Decidable (s.budget.Fits turn.intent.amount))

/-- Recorded amounts are not negative. -/
def Sound (s : PaymentService) : Prop := ∀ entry ∈ s.idempotency, 0 ≤ entry.2.1.2.2.1

variable {s : PaymentService} {turn : ServiceTurn}

/-! ### What one call does to the totals -/

/-- A recorded result adds its amount to the total of its status. -/
lemma recordedTotal_remember {intent : ServiceIntent} {call : ServiceCall} {result : PaymentResult}
    (hresult : call.result = .ok result) (hkept : call.service.idempotency = s.idempotency)
    (status : PaymentStatus) :
    (remember intent call).service.recordedTotal status =
      (if result.status = status then intent.amount.units else 0) + s.recordedTotal status := by
  rw [recordedTotal, remember_idempotency hresult, hkept, List.map_cons, List.sum_cons]
  rfl

lemma Sound.recordedTotal_nonneg (h : s.Sound) (status : PaymentStatus) :
    0 ≤ s.recordedTotal status := by
  apply List.sum_nonneg
  intro x hx
  obtain ⟨entry, hentry, rfl⟩ := List.mem_map.mp hx
  split_ifs
  · exact h entry hentry
  · rfl

/-- An answer keeps the budget and the record in step. -/
lemma Conserved.settled {intent : ServiceIntent} (h : s.Conserved)
    (hle : intent.amount.units ≤ s.budget.available) (outcome : ProviderOutcome)
    {call : ServiceCall} {decision : Decision}
    (hservice : call.service = { s with budget := s.budget.settled intent.amount outcome })
    (hresult : call.result = .ok ⟨intent.paymentId, outcome.paymentStatus, decision⟩) :
    (PaymentService.remember intent call).service.Conserved := by
  have hkept : call.service.idempotency = s.idempotency := by rw [hservice]
  have htotal : ∀ status, (PaymentService.remember intent call).service.recordedTotal status =
      (if outcome.paymentStatus = status then intent.amount.units else 0) +
        s.recordedTotal status :=
    recordedTotal_remember hresult hkept
  have hbudget : (PaymentService.remember intent call).service.budget =
      s.budget.settled intent.amount outcome := by
    rw [remember_budget, hservice]
  have hnonneg := intent.units_nonneg
  have hroom : intent.amount.units ≤ s.budget.limit - s.budget.consumed - s.budget.reserved := hle
  obtain ⟨hconsumed, hreserved, hlimit⟩ := h
  refine ⟨?_, ?_, ?_⟩
  · rw [htotal, hbudget, ← hconsumed]
    cases outcome with
    | succeeded => exact add_comm _ _
    | failed | unknown => exact (zero_add _).symm
  · rw [htotal, hbudget, ← hreserved]
    cases outcome with
    | unknown => exact add_comm _ _
    | failed | succeeded => exact (zero_add _).symm
  · rw [hbudget]
    cases outcome <;> simp only [MemoryBudget.settled, MemoryBudget.spending, MemoryBudget.holding]
      <;> linarith

/-- A refusal leaves both as they were. -/
lemma Conserved.refused {intent : ServiceIntent} (h : s.Conserved) {result : PaymentResult}
    (hstatus : result.status = .failed ∨ result.status = .approvalRequired) :
    (PaymentService.remember intent ⟨s, none, .ok result⟩).service.Conserved := by
  have htotal : ∀ status,
      (PaymentService.remember intent ⟨s, none, .ok result⟩).service.recordedTotal status =
        (if result.status = status then intent.amount.units else 0) +
        s.recordedTotal status :=
    recordedTotal_remember rfl rfl
  refine ⟨?_, ?_, ?_⟩
  · rw [htotal, remember_budget, h.consumed]
    rcases hstatus with hstatus | hstatus <;> simp [hstatus]
  · rw [htotal, remember_budget, h.reserved]
    rcases hstatus with hstatus | hstatus <;> simp [hstatus]
  · rw [remember_budget]
    exact h.limit

/-- After a call the budget is conserved exactly when the provider, if asked, has answered. -/
lemma Conserved.step_iff (h : s.Conserved) (hsound : s.Sound) (hfits : s.Fits turn) :
    (s.step turn).Conserved ↔ s.Answered turn := by
  have hreserved : 0 ≤ s.budget.reserved := by
    rw [h.reserved]
    exact hsound.recordedTotal_nonneg _
  have hturns := createPaymentWith_turns hfits
  rw [step]
  generalize s.createPaymentWith turn = call at hturns ⊢
  cases hturns with
  | kept result hnot => exact ⟨fun _ hreaches => absurd hreaches hnot, fun _ => h⟩
  | refused result hfresh hstatus hnot =>
    exact ⟨fun _ hreaches => absurd hreaches hnot, fun _ => h.refused hstatus⟩
  | reached decision hreaches =>
    cases hanswer : turn.charge turn.intent.contextCharge with
    | error e =>
      rw [executeWith_raised hanswer, remember_error rfl]
      constructor
      · -- the amount is reserved, and no result says so
        intro hafter
        have hheld : s.budget.reserved + turn.intent.amount.units =
            s.recordedTotal .unknownExternalOutcome := hafter.reserved
        have hpositive := hreaches.positive
        rw [← h.reserved] at hheld
        linarith
      · intro hanswered
        obtain ⟨outcome, houtcome⟩ := hanswered hreaches
        rw [houtcome] at hanswer
        cases hanswer
    | ok outcome =>
      refine ⟨fun _ _ => ⟨outcome, hanswer⟩, fun _ => ?_⟩
      rw [executeWith_answered turn hfits hreaches.available hreserved hanswer]
      exact h.settled hreaches.available outcome rfl rfl

/-- Calls record no negative amount. -/
lemma Sound.step (h : s.Sound) (turn : ServiceTurn) : (s.step turn).Sound := by
  cases hfresh : s.idempotency.lookup turn.intent.idempotencyKey with
  | some previous =>
    rw [PaymentService.step]
    simp only [createPaymentWith, hfresh]
    split_ifs <;> exact h
  | none =>
    intro entry hentry
    rw [PaymentService.step, createPaymentWith_fresh hfresh] at hentry
    split at hentry
    · exact h entry hentry
    · rcases List.mem_cons.mp hentry with rfl | hentry
      · exact turn.intent.units_nonneg
      · exact h entry hentry

/-- A service starts conserved, on a budget that is unused. -/
lemma start_conserved (policy : SpendingPolicy) {budget : MemoryBudget}
    (hconsumed : budget.consumed = 0) (hreserved : budget.reserved = 0)
    (hlimit : 0 ≤ budget.limit) :
    Conserved ⟨policy, budget, []⟩ ∧ Sound ⟨policy, budget, []⟩ := by
  refine ⟨⟨hconsumed, hreserved, ?_⟩, ?_⟩
  · simp only [hconsumed, hreserved]
    linarith
  · intro entry hentry
    cases hentry

/-- Over any sequence of calls whose amounts fit the decimal context, on a budget that starts
unused, the budget is conserved after every call exactly when no charge that is sent raises. -/
theorem conserved_iff {policy : SpendingPolicy} {budget : MemoryBudget} {turns : List ServiceTurn}
    (hconsumed : budget.consumed = 0) (hreserved : budget.reserved = 0) (hlimit : 0 ≤ budget.limit)
    (hfits : Machine.Along step Fits ⟨policy, budget, []⟩ turns) :
    Machine.Along step (fun s turn => (s.step turn).Conserved) ⟨policy, budget, []⟩ turns ↔
      Machine.Along step Answered ⟨policy, budget, []⟩ turns := by
  have hstart := start_conserved policy hconsumed hreserved hlimit
  apply Machine.Along.congr (I := fun s => s.Conserved ∧ s.Sound) ?_ ?_ hstart hfits
  · intro s turn hs _ hafter
    exact ⟨hafter, hs.2.step turn⟩
  · intro s turn hs hfits
    exact hs.1.step_iff hs.2 hfits

/-! ### A charge that raises -/

/-- Three calls with keys of their own: 10 succeeds, the answer to 20 is unknown, 600 is over the
limit of policy. -/
def sampleTurns : List ServiceTurn :=
  [⟨.sample 10, .ok (), fun _ => .ok .succeeded⟩,
    ⟨{ ServiceIntent.sample 20 with idempotencyKey := "second", paymentId := "other" }, .ok (),
      fun _ => .ok .unknown⟩,
    ⟨{ ServiceIntent.sample 600 with idempotencyKey := "third" }, .ok (),
      fun _ => .ok .succeeded⟩]

/-- The budget of these calls is conserved. -/
theorem conserved_iff_sample :
    Machine.Along step (fun s turn => (s.step turn).Conserved) PaymentService.sample
      sampleTurns := by
  have hfits : Machine.Along step Fits PaymentService.sample sampleTurns := by decide +kernel
  refine (conserved_iff rfl rfl (by decide) hfits).mpr ?_
  exact ⟨fun _ => ⟨_, rfl⟩, fun _ => ⟨_, rfl⟩, fun _ => ⟨_, rfl⟩, trivial⟩

/-- The connection to the provider breaks: the 10 stay reserved, and no result accounts for
them. -/
theorem not_conserved_raised :
    ¬ (PaymentService.sample.step
      ⟨.sample 10, .ok (), fun _ => .error (.runtimeError "connection reset")⟩).Conserved := by
  intro h
  have hreserved := h.reserved
  revert hreserved
  decide +kernel

end PaymentService

end AgentPay
