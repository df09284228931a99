import AgentPay.ServiceBudget

/-!
# What the provider executed

The service against a provider that executes a key once and replays its outcome afterwards. The
provider's key is made of the payment id, the service's own is the caller's: a payment that comes
back under another key is replayed by the provider and consumed by the service once more.
-/

namespace AgentPay

open Support

/-! ### The provider -/

/-- `MockProvider`: what each key has been executed with, and how it ended. -/
structure MockProvider where
  results : List (String × ServiceCharge × ProviderOutcome)

namespace MockProvider

/-- `_run`: the outcome of a key that is new is the provider's choice. -/
def run (p : MockProvider) (charge : ServiceCharge) (outcome : ProviderOutcome) :
    ProviderOutcome × MockProvider :=
  match p.results.lookup charge.idempotencyKey with
  | some (_, recorded) => (recorded, p)
  | none => (outcome, ⟨(charge.idempotencyKey, charge, outcome) :: p.results⟩)

/-- The total of the charges that were executed and succeeded, in ten-thousandths. -/
def charged (p : MockProvider) : ℚ :=
  (p.results.map fun entry =>
    if entry.2.2 = .succeeded then (entry.2.1.amountMinor * 100 : ℚ) else 0).sum

end MockProvider

/-! ### The two together -/

/-- The service and its provider. -/
structure ServicePair where
  service : PaymentService
  provider : MockProvider

/-- One call: the intent, and how the provider ends it if the key is new to it. -/
structure PairTurn where
  intent : ServiceIntent
  outcome : ProviderOutcome
  deriving DecidableEq, Repr

namespace ServicePair

/-- The call as the service makes it. -/
def turn (s : ServicePair) (t : PairTurn) : ServiceTurn :=
  ⟨t.intent, .ok (), fun charge => .ok (s.provider.run charge t.outcome).1⟩

/-- `create_payment` against the provider. -/
def step (s : ServicePair) (t : PairTurn) : ServicePair :=
  let call := s.service.createPaymentWith (s.turn t)
  ⟨call.service,
    match call.charge with
    | none => s.provider
    | some charge => (s.provider.run charge t.outcome).2⟩

/-- What the budget has consumed is what the provider has executed. -/
def Balanced (s : ServicePair) : Prop := s.service.budget.consumed = s.provider.charged

instance (s : ServicePair) : Decidable s.Balanced := inferInstanceAs (Decidable (_ = _))

/-- 28 digits are enough for the amount of the call and its minor units. -/
def Fits (s : ServicePair) (t : PairTurn) : Prop :=
  s.service.budget.Fits t.intent.amount ∧
    context (t.intent.amount.units / 100) = t.intent.amount.units / 100

instance (s : ServicePair) (t : PairTurn) : Decidable (s.Fits t) :=
  inferInstanceAs (Decidable (_ ∧ _))

/-- A call that goes to the provider is for a payment the provider has not executed with success
before, and for whole minor units where it now does so. -/
def Once (s : ServicePair) (t : PairTurn) : Prop :=
  s.service.Reaches (s.turn t) →
    match s.provider.results.lookup t.intent.charge.idempotencyKey with
    | some (_, outcome) => outcome ≠ .succeeded
    | none => t.outcome = .succeeded → t.intent.amount.TwoPlaces

variable {s : ServicePair} {t : PairTurn}

/-! ### One call -/

lemma truncate_intCast (n : ℤ) : truncate n = n := by
  simp [truncate]

/-- The minor amount is the whole amount exactly for whole minor units. -/
lemma contextCharge_exact_iff {i : ServiceIntent}
    (hfits : context (i.amount.units / 100) = i.amount.units / 100) :
    (i.contextCharge.amountMinor : ℚ) * 100 = i.amount.units ↔ i.amount.TwoPlaces := by
  have hminor : i.contextCharge.amountMinor = truncate (i.amount.units / 100) :=
    congrArg truncate hfits
  rw [hminor]
  constructor
  · intro h
    exact ⟨_, h.symm⟩
  · rintro ⟨minor, hminor⟩
    rw [hminor, mul_div_cancel_right₀ _ (by norm_num), truncate_intCast]

/-- A call that goes to the provider. -/
lemma step_reached (hfits : s.Fits t) (hreaches : s.service.Reaches (s.turn t))
    (hreserved : 0 ≤ s.service.budget.reserved) :
    (s.step t).service.budget =
        s.service.budget.settled t.intent.amount
          (s.provider.run t.intent.contextCharge t.outcome).1 ∧
      (s.step t).provider = (s.provider.run t.intent.contextCharge t.outcome).2 := by
  have hturns : s.service.Turns (s.turn t) (s.service.createPaymentWith (s.turn t)) :=
    PaymentService.createPaymentWith_turns hfits.1
  rw [step]
  generalize s.service.createPaymentWith (s.turn t) = call at hturns ⊢
  cases hturns with
  | kept result hnot | refused result hfresh hstatus hnot => exact absurd hreaches hnot
  | reached decision h =>
    rw [PaymentService.executeWith_answered (s.turn t) hfits.1 h.available hreserved rfl]
    exact ⟨rfl, rfl⟩

/-- A call that does not leaves both totals. -/
lemma step_unreached (hfits : s.Fits t) (hreaches : ¬ s.service.Reaches (s.turn t)) :
    (s.step t).service.budget = s.service.budget ∧ (s.step t).provider = s.provider := by
  have hturns : s.service.Turns (s.turn t) (s.service.createPaymentWith (s.turn t)) :=
    PaymentService.createPaymentWith_turns hfits.1
  rw [step]
  generalize s.service.createPaymentWith (s.turn t) = call at hturns ⊢
  cases hturns with
  | kept result hnot => exact ⟨rfl, rfl⟩
  | refused result hfresh hstatus hnot => exact ⟨rfl, rfl⟩
  | reached decision h => exact absurd h hreaches

/-- A balanced pair stays balanced through a call exactly when the call is the one execution of its
payment. -/
lemma Balanced.step_iff (h : s.Balanced) (hfits : s.Fits t)
    (hreserved : 0 ≤ s.service.budget.reserved) : (s.step t).Balanced ↔ s.Once t := by
  by_cases hreaches : s.service.Reaches (s.turn t)
  · obtain ⟨hbudget, hprovider⟩ := step_reached hfits hreaches hreserved
    have hpositive : 0 < t.intent.amount.units := hreaches.positive
    have hconsumed : s.service.budget.consumed = s.provider.charged := h
    have hkey : t.intent.contextCharge.idempotencyKey = t.intent.charge.idempotencyKey := rfl
    have honce : s.Once t ↔ match s.provider.results.lookup t.intent.charge.idempotencyKey with
      | some (_, outcome) => outcome ≠ .succeeded
      | none => t.outcome = .succeeded → t.intent.amount.TwoPlaces :=
      ⟨fun h => h hreaches, fun h _ => h⟩
    rw [Balanced, hbudget, hprovider, honce, MockProvider.run, hkey]
    cases s.provider.results.lookup t.intent.charge.idempotencyKey with
    | some recorded =>
      obtain ⟨charge, outcome⟩ := recorded
      -- a replay: the provider executes nothing
      cases outcome with
      | succeeded =>
        refine iff_of_false (fun hbalanced => ?_) (fun h => h rfl)
        have hspent : s.service.budget.consumed + t.intent.amount.units = s.provider.charged :=
          hbalanced
        linarith
      | failed | unknown => exact iff_of_true hconsumed fun h => by cases h
    | none =>
      cases houtcome : t.outcome with
      | succeeded =>
        have hcharged : (⟨(t.intent.charge.idempotencyKey, t.intent.contextCharge, .succeeded) ::
            s.provider.results⟩ : MockProvider).charged =
              t.intent.contextCharge.amountMinor * 100 + s.provider.charged := rfl
        have hspent : (s.service.budget.settled t.intent.amount .succeeded).consumed =
            s.service.budget.consumed + t.intent.amount.units := rfl
        simp only [hcharged, hspent, forall_const, ← contextCharge_exact_iff hfits.2]
        constructor <;> intro h <;> linarith
      | failed | unknown =>
        exact iff_of_true (hconsumed.trans (zero_add _).symm) fun h => by cases h
  · obtain ⟨hbudget, hprovider⟩ := step_unreached hfits hreaches
    rw [Balanced, hbudget, hprovider]
    exact ⟨fun _ h => absurd h hreaches, fun _ => h⟩

/-! ### Sequences of calls -/

/-- The service alone: its provider never raises, so its budget stays conserved. -/
lemma step_conserved (hfits : s.Fits t) (hconserved : s.service.Conserved)
    (hsound : s.service.Sound) : (s.step t).service.Conserved ∧ (s.step t).service.Sound := by
  have hfits' : s.service.Fits (s.turn t) := hfits.1
  have hanswered : s.service.Answered (s.turn t) := fun _ => ⟨_, rfl⟩
  exact ⟨(hconserved.step_iff hsound hfits').mpr hanswered, hsound.step (s.turn t)⟩

/-- Over any sequence of calls whose amounts fit the decimal context, on an unused budget and a
provider that has executed nothing, the total consumed is the total executed after every call
exactly when each call that goes to the provider is the one execution of its payment. -/
theorem balanced_iff {policy : SpendingPolicy} {budget : MemoryBudget} {ts : List PairTurn}
    (hconsumed : budget.consumed = 0) (hreserved : budget.reserved = 0) (hlimit : 0 ≤ budget.limit)
    (hfits : Machine.Along step Fits ⟨⟨policy, budget, []⟩, ⟨[]⟩⟩ ts) :
    Machine.Along step (fun s t => (s.step t).Balanced) ⟨⟨policy, budget, []⟩, ⟨[]⟩⟩ ts ↔
      Machine.Along step Once ⟨⟨policy, budget, []⟩, ⟨[]⟩⟩ ts := by
  have hstart := PaymentService.start_conserved policy hconsumed hreserved hlimit
  apply Machine.Along.congr
    (I := fun s => s.Balanced ∧ s.service.Conserved ∧ s.service.Sound) ?_ ?_
    ⟨hconsumed, hstart⟩ hfits
  · rintro s t ⟨-, hconserved, hsound⟩ hfits hafter
    exact ⟨hafter, step_conserved hfits hconserved hsound⟩
  · rintro s t ⟨hbalanced, hconserved, hsound⟩ hfits
    refine hbalanced.step_iff hfits ?_
    rw [hconserved.reserved]
    exact hsound.recordedTotal_nonneg _

/-! ### A payment under two keys -/

/-- The sample service before a provider that has executed nothing. -/
def sample : ServicePair := ⟨.sample, ⟨[]⟩⟩

/-- Two payments under two keys, and the first key once more. -/
def onceTurns : List PairTurn :=
  [⟨.sample 10, .succeeded⟩,
    ⟨{ ServiceIntent.sample 20 with idempotencyKey := "second", paymentId := "other" }, .succeeded⟩,
    ⟨.sample 10, .succeeded⟩]

/-- One payment under two keys. -/
def twiceTurns : List PairTurn :=
  [⟨.sample 10, .succeeded⟩,
    ⟨{ ServiceIntent.sample 10 with idempotencyKey := "second" }, .succeeded⟩]

/-- Each payment is executed once, and consumed once. -/
theorem balanced_iff_sample :
    Machine.Along step Once sample onceTurns := by
  have hfits : Machine.Along step Fits sample onceTurns := by decide +kernel
  refine (balanced_iff rfl rfl (by decide) hfits).mp ?_
  decide +kernel

/-- The provider has executed one charge of 10, and the budget has consumed 20. -/
theorem not_balanced_twice :
    (Machine.run step sample twiceTurns).provider.charged = 100000 ∧
      (Machine.run step sample twiceTurns).service.budget.consumed = 200000 ∧
      ¬ (Machine.run step sample twiceTurns).Balanced := by
  refine ⟨?_, ?_, ?_⟩ <;> decide +kernel

end ServicePair

end AgentPay
