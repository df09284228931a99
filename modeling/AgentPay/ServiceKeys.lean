import AgentPay.OneAmount
import AgentPay.ServiceCalls

/-!
# Key binding of the payment service

`fingerprint` is what `create_payment` compares when a key comes back. It holds the agent and four
of the eight things that policy, routing and charging read of an intent.
-/

namespace AgentPay

namespace ServiceIntent

/-- The intents agree on what the fingerprint holds beside the agent. -/
structure SamePurchase (i j : ServiceIntent) : Prop where
  paymentId : i.paymentId = j.paymentId
  amount : i.amount.units = j.amount.units
  currency : i.currency = j.currency
  merchantDomain : i.merchantDomain = j.merchantDomain

/-- The intents agree on what only policy evaluation reads. -/
structure SameCircumstances (i j : ServiceIntent) : Prop where
  merchantCategory : i.merchantCategory = j.merchantCategory
  region : i.region = j.region
  instrumentClass : i.instrumentClass = j.instrumentClass
  requestedAt : i.requestedAt = j.requestedAt

/-- The intents agree on every field that policy evaluation, routing or charging reads. -/
structure SameReads (i j : ServiceIntent) : Prop extends SamePurchase i j, SameCircumstances i j

variable {i j : ServiceIntent}

/-- Policy decides alike on intents that agree on what is read. -/
lemma SameReads.decide_eq (h : i.SameReads j) (s : PaymentService) : s.decide i = s.decide j := by
  have hamount : (Limit.finite i.amount).units = (Limit.finite j.amount).units := by
    rw [Limit.units_finite, Limit.units_finite, h.amount]
  simp only [PaymentService.decide, SpendingPolicy.evaluateWithTrace, SpendingPolicy.denyReasons,
    hamount, h.currency, h.merchantDomain, h.merchantCategory, h.region, h.instrumentClass,
    h.requestedAt]

/-- They are charged alike. -/
lemma SameReads.charge_eq (h : i.SameReads j) : i.contextCharge = j.contextCharge := by
  simp only [contextCharge, charge, h.amount, h.currency, h.paymentId]

lemma fingerprint_eq_iff : i.fingerprint = j.fingerprint ↔
    i.agentId = j.agentId ∧ i.SamePurchase j := by
  simp only [fingerprint, Prod.mk.injEq]
  constructor
  · rintro ⟨hagent, hdomain, hamount, hcurrency, hpayment⟩
    exact ⟨hagent, hpayment, hamount, hcurrency, hdomain⟩
  · rintro ⟨hagent, hpayment, hamount, hcurrency, hdomain⟩
    exact ⟨hagent, hdomain, hamount, hcurrency, hpayment⟩

end ServiceIntent

namespace PaymentService

/-- The intent is on record under its key. -/
def Recorded (s : PaymentService) (i : ServiceIntent) (result : PaymentResult) : Prop :=
  s.idempotency.lookup i.idempotencyKey = some (i.fingerprint, result)

instance (s : PaymentService) (i : ServiceIntent) (result : PaymentResult) :
    Decidable (s.Recorded i result) :=
  inferInstanceAs (Decidable (_ = _))

variable {s : PaymentService} {i : ServiceIntent} {result : PaymentResult} {turn : ServiceTurn}

lemma executeWith_idempotency (s : PaymentService) (turn : ServiceTurn) (decision : Decision) :
    (s.executeWith turn decision).service.idempotency = s.idempotency := by
  simp only [executeWith]
  split
  · rfl
  · split <;> rfl
  · split <;> rfl
  · rfl

lemma admit_idempotency (s : PaymentService) (turn : ServiceTurn) (decision : Decision) :
    (s.proceed turn decision).service.idempotency = s.idempotency := by
  simp only [proceed]
  split
  · rfl
  · split
    · rfl
    · rfl
    · exact executeWith_idempotency _ turn decision

/-- What is remembered is on record, before everything else. -/
lemma remember_idempotency {call : ServiceCall} (h : call.result = .ok result) :
    (remember i call).service.idempotency =
      (i.idempotencyKey, i.fingerprint, result) :: call.service.idempotency := by
  rw [remember]
  split
  · rename_i e herror
    rw [herror] at h
    cases h
  · rename_i result' hresult
    obtain rfl := Except.ok.inj (hresult.symm.trans h)
    rfl

lemma remember_error {call : ServiceCall} {e : Error} (h : call.result = .error e) :
    remember i call = call := by
  rw [remember]
  split
  · rfl
  · rename_i result' hresult
    rw [hresult] at h
    cases h

/-- A call with a new key records its intent with what it returns, or nothing when it raises. -/
lemma createPaymentWith_fresh (h : s.idempotency.lookup turn.intent.idempotencyKey = none) :
    (s.createPaymentWith turn).service.idempotency =
      match (s.createPaymentWith turn).result with
      | .error _ => s.idempotency
      | .ok result =>
        (turn.intent.idempotencyKey, turn.intent.fingerprint, result) :: s.idempotency := by
  have hcall : ∃ call : ServiceCall, s.createPaymentWith turn = remember turn.intent call ∧
      call.service.idempotency = s.idempotency := by
    simp only [createPaymentWith, h]
    refine ⟨_, rfl, ?_⟩
    split
    · rfl
    · rfl
    · exact admit_idempotency s turn _
    · exact admit_idempotency s turn _
  obtain ⟨call, hcall, hkept⟩ := hcall
  rw [hcall, remember_result]
  cases hresult : call.result with
  | error e => rw [remember_error hresult, hkept]
  | ok result => rw [remember_idempotency hresult, hkept]

/-- A call that returns leaves its intent on record with what it returned. -/
lemma createPaymentWith_recorded (h : (s.createPaymentWith turn).result = .ok result) :
    (s.createPaymentWith turn).service.Recorded turn.intent result := by
  cases hfresh : s.idempotency.lookup turn.intent.idempotencyKey with
  | none =>
    rw [Recorded, createPaymentWith_fresh hfresh, h]
    simp
  | some previous =>
    obtain ⟨fingerprint, result'⟩ := previous
    simp only [createPaymentWith, hfresh] at h ⊢
    split_ifs at h ⊢ with hsame
    obtain rfl := Except.ok.inj h
    rw [Recorded, hfresh, not_not.mp hsame]

/-- The answer to a key that is on record. -/
lemma Recorded.createPaymentWith_eq (h : s.Recorded i result)
    (hkey : turn.intent.idempotencyKey = i.idempotencyKey) :
    s.createPaymentWith turn =
      if i.fingerprint ≠ turn.intent.fingerprint then
        ⟨s, none, .error (.valueError "idempotency key conflict")⟩
      else ⟨s, none, .ok result⟩ := by
  rw [Recorded, ← hkey] at h
  simp only [createPaymentWith, h]

/-- What is on record stays on record. -/
lemma Recorded.createPaymentWith (h : s.Recorded i result) (turn : ServiceTurn) :
    (s.createPaymentWith turn).service.Recorded i result := by
  by_cases hkey : turn.intent.idempotencyKey = i.idempotencyKey
  · rw [h.createPaymentWith_eq hkey]
    split_ifs <;> exact h
  · cases hfresh : s.idempotency.lookup turn.intent.idempotencyKey with
    | some previous =>
      simp only [PaymentService.createPaymentWith, hfresh]
      split_ifs <;> exact h
    | none =>
      rw [Recorded, createPaymentWith_fresh hfresh]
      split
      · exact h
      · rw [List.lookup_cons, beq_false_of_ne (Ne.symm hkey)]
        exact h

/-- A key on record gives its result to an intent that agrees on what is read, and a conflict to
every other one; the service is as it was and the provider is not asked. -/
structure BindsKey (s : PaymentService) (i : ServiceIntent) (result : PaymentResult)
    (turn : ServiceTurn) : Prop where
  replayed : i.SameReads turn.intent → s.createPaymentWith turn = ⟨s, none, .ok result⟩
  conflict : ¬ i.SameReads turn.intent →
    s.createPaymentWith turn = ⟨s, none, .error (.valueError "idempotency key conflict")⟩

/-- A recorded key is bound to what is read of its intent exactly when the other intent is another
purchase, or differs in the agent just when it differs in the circumstances. -/
theorem bindsKey_iff (hrecorded : s.Recorded i result)
    (hkey : turn.intent.idempotencyKey = i.idempotencyKey) :
    s.BindsKey i result turn ↔
      (i.SamePurchase turn.intent →
        (i.agentId = turn.intent.agentId ↔ i.SameCircumstances turn.intent)) := by
  have hcall := hrecorded.createPaymentWith_eq hkey
  have hreads : i.SameReads turn.intent ↔
      i.SamePurchase turn.intent ∧ i.SameCircumstances turn.intent :=
    ⟨fun h => ⟨h.toSamePurchase, h.toSameCircumstances⟩, fun h => ⟨h.1, h.2⟩⟩
  by_cases hsame : i.fingerprint = turn.intent.fingerprint
  · rw [if_neg (not_not.mpr hsame)] at hcall
    obtain ⟨hagent, hpurchase⟩ := ServiceIntent.fingerprint_eq_iff.mp hsame
    constructor
    · intro h _
      refine ⟨fun _ => ?_, fun _ => hagent⟩
      by_contra hcircumstances
      have hconflict := h.conflict fun hreads' => hcircumstances (hreads.mp hreads').2
      rw [hcall] at hconflict
      cases congrArg ServiceCall.result hconflict
    · intro h
      have hcircumstances := (h hpurchase).mp hagent
      exact ⟨fun _ => hcall, fun hnot => absurd (hreads.mpr ⟨hpurchase, hcircumstances⟩) hnot⟩
  · rw [if_pos hsame] at hcall
    constructor
    · intro h hpurchase
      have hagent : i.agentId ≠ turn.intent.agentId := fun hagent =>
        hsame (ServiceIntent.fingerprint_eq_iff.mpr ⟨hagent, hpurchase⟩)
      refine ⟨fun hagent' => absurd hagent' hagent, fun hcircumstances => ?_⟩
      have hreplayed := h.replayed (hreads.mpr ⟨hpurchase, hcircumstances⟩)
      rw [hcall] at hreplayed
      cases congrArg ServiceCall.result hreplayed
    · intro h
      refine ⟨fun hsame' => absurd ?_ hsame, fun _ => hcall⟩
      obtain ⟨hpurchase, hcircumstances⟩ := hreads.mp hsame'
      exact ServiceIntent.fingerprint_eq_iff.mpr ⟨(h hpurchase).mpr hcircumstances, hpurchase⟩

/-! ### A category that comes with the second call -/

/-- A service that denies gambling, after a call that named no category and succeeded. -/
def afterSample : PaymentService :=
  ({ PaymentService.sample with
      policy := { SpendingPolicy.sample with deniedCategories := ["gambling"] } }.createPaymentWith
    ⟨.sample 10, .ok (), fun _ => .ok .succeeded⟩).service

/-- The same key and purchase, now for gambling. -/
def gamblingTurn : ServiceTurn :=
  ⟨{ ServiceIntent.sample 10 with merchantCategory := some "gambling" }, .ok (),
    fun _ => .ok .succeeded⟩

lemma afterSample_recorded :
    afterSample.Recorded (.sample 10) ⟨"payment", .succeeded, .allowAuto⟩ := by
  decide +kernel

/-- The same key and payment for another amount conflicts, as it must. -/
theorem bindsKey_iff_sample :
    afterSample.BindsKey (.sample 10) ⟨"payment", .succeeded, .allowAuto⟩
      ⟨.sample 20, .ok (), fun _ => .ok .succeeded⟩ := by
  refine (bindsKey_iff afterSample_recorded rfl).mpr fun hpurchase => ?_
  have hamount := hpurchase.amount
  norm_num [ServiceIntent.sample, Decimal.units] at hamount

/-- Policy denies the second intent, and the call answers that it has succeeded. -/
theorem not_bindsKey_gambling :
    afterSample.Recorded (.sample 10) ⟨"payment", .succeeded, .allowAuto⟩ ∧
      gamblingTurn.intent.idempotencyKey = (ServiceIntent.sample 10).idempotencyKey ∧
      afterSample.decide gamblingTurn.intent = .deny ∧
      (afterSample.createPaymentWith gamblingTurn).result =
        .ok ⟨"payment", .succeeded, .allowAuto⟩ ∧
      ¬ afterSample.BindsKey (.sample 10) ⟨"payment", .succeeded, .allowAuto⟩ gamblingTurn := by
  refine ⟨afterSample_recorded, rfl, ?_, ?_, fun h => ?_⟩
  · decide +kernel
  · decide +kernel
  · have hconflict := congrArg ServiceCall.result
      (h.conflict fun hreads => by cases hreads.merchantCategory)
    revert hconflict
    decide +kernel

end PaymentService

end AgentPay
