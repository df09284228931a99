import AgentPay.Coherence
import AgentPay.Service

/-!
# One amount

A charge leaves for the provider in minor units, of which a decimal with more than two places has
no whole number. The three paths to the provider cut what is left over off; the reservation, its
consumption and the journal keep the amount as it was admitted.
-/

namespace AgentPay

open Support

/-! ### Minor units -/

/-- A whole number of minor units: at most two places are in use. -/
def Decimal.TwoPlaces (d : Decimal) : Prop := ∃ minor : ℤ, d.units = minor * 100

/-- The minor amount is exact for the decimals that have one. -/
lemma amountMinor_exact_iff {d : Decimal} : (amountMinor d : ℚ) * 100 = d.units ↔ d.TwoPlaces := by
  constructor
  · intro h
    exact ⟨amountMinor d, h.symm⟩
  · rintro ⟨minor, hminor⟩
    have hscale : (10 : ℚ) ^ d.scale ≠ 0 := by positivity
    have hcoeff : (d.coeff : ℚ) * 100 = minor * 10 ^ d.scale := by
      rw [Decimal.units, div_eq_iff hscale] at hminor
      linarith
    have hcoeff : d.coeff * 100 = minor * 10 ^ d.scale := by exact_mod_cast hcoeff
    have hexact : amountMinor d = minor := by
      rw [amountMinor]
      simp only [hcoeff]
      exact Int.mul_tdiv_cancel minor (by positivity)
    rw [hexact, hminor]

lemma Amount.twoPlaces_iff {a : Amount} : a.toDecimal.TwoPlaces ↔ 100 ∣ a.units := by
  rw [Decimal.TwoPlaces, Amount.units_toDecimal]
  constructor
  · rintro ⟨minor, hminor⟩
    have hminor : (a.units : ℤ) = minor * 100 := by exact_mod_cast hminor
    omega
  · rintro ⟨n, hn⟩
    exact ⟨n, by rw [hn]; push_cast; ring⟩

/-! ### The books of a payment -/

/-- The reservation of the payment a charge is for, which its budget counts as reserved and then as
consumed, and its capture journal are of the amount charged. -/
structure OneAmount (db : Db) (call : ProviderCall) : Prop where
  reserved : ∃ payment request r row, db.payments.get? call.paymentId = some payment ∧
    db.paymentRequests.get? payment.paymentRequestId = some request ∧
    request.budgetReservationId = some r ∧ db.budgetReservations.get? r = some row ∧
    (row.amount.units : ℚ) = call.amountMinor * 100
  posted : (journalView db call.paymentId).capture = true →
    ((journalView db call.paymentId).debited : ℚ) = call.amountMinor * 100

/-- The capture journal debits the amount of the payment. -/
def PaymentView.DebitsOnce (v : PaymentView) : Prop :=
  v.journals.debited = if v.journals.capture then v.amount.units else 0

lemma PaymentView.DebitsOnce.postCapture {v : PaymentView} (h : v.DebitsOnce) :
    (v.journals.postCapture v.amount).debited =
      if (v.journals.postCapture v.amount).capture then v.amount.units else 0 := by
  rw [DebitsOnce] at h
  by_cases hcapture : v.journals.capture
  · simpa [JournalView.postCapture, hcapture] using h
  · simpa [JournalView.postCapture, hcapture] using h

lemma PaymentStep.debitsOnce {op : PaymentOp} {v v' : PaymentView} (hstep : PaymentStep op v v')
    (h : v.DebitsOnce) : v'.DebitsOnce := by
  cases hstep with
  | finalizeSucceeded | eventSucceeded | captureSucceeded => exact h.postCapture
  | @refundSucceeded v k rawCurrency amount hrefundable =>
    show (v.journals.postRefund (k.1, rawCurrency) amount).debited =
      if (v.journals.postRefund (k.1, rawCurrency) amount).capture then v.amount.units else 0
    rw [JournalView.postRefund]
    by_cases hfiled : v.journals.refund (k.1, rawCurrency) = true
    · rw [if_pos hfiled]
      exact h
    · rw [if_neg hfiled]
      exact h
  | _ => exact h

/-- A payment of this amount with a reservation. -/
def PaymentView.Holds (amount : Amount) (v : PaymentView) : Prop :=
  v.amount = amount ∧ v.reservation.isSome

lemma PaymentStep.holds {op : PaymentOp} {v v' : PaymentView} (hstep : PaymentStep op v v')
    {amount : Amount} (h : v.Holds amount) : v'.Holds amount := by
  obtain ⟨hamount, hres⟩ := h
  cases hstep with
  | finalizeFailed | finalizeSucceeded | eventFailed | eventSucceeded =>
    refine ⟨hamount, ?_⟩
    simpa [PaymentView.fail, PaymentView.succeed] using hres
  | approve => exact ⟨hamount, rfl⟩
  | _ => exact ⟨hamount, hres⟩

namespace State.Occurs

variable {env : Env} {s : State} (h : s.Occurs env) {p : PaymentId}

include h

lemma debitsOnce {v : PaymentView} (hv : view s.db p = some v) : v.DebitsOnce := by
  refine h.reachable.views (J := PaymentView.DebitsOnce) (fun v hblank => ?_)
    (fun v hcreated => ?_) (fun op v v' _ hdebits hstep => hstep.debitsOnce hdebits) hv
  · rw [PaymentView.DebitsOnce, hblank.journals]
    rfl
  · rw [PaymentView.DebitsOnce, hcreated.journals]
    rfl

/-- A payment keeps its amount and its reservation. -/
lemma holds {amount : Amount} (hv : ∃ v, view s.db p = some v ∧ v.Holds amount)
    (as : List Action) :
    ∃ v, view (Machine.run (State.step env) s as).db p = some v ∧ v.Holds amount :=
  h.keeps (fun _ _ _ _ hholds hstep => hstep.holds hholds) hv as

/-- The charge of an amount that the payment is booked with. -/
lemma oneAmount_iff {v : PaymentView} (hv : view s.db p = some v) (hres : v.reservation.isSome)
    {amount : Decimal} (hunits : amount.units = v.amount.units) (currency : String) :
    OneAmount s.db (PaymentOrchestrator.executeExternal p amount currency) ↔
      amount.TwoPlaces := by
  obtain ⟨payment, request, hp, hr, rfl⟩ := view_eq_some.mp hv
  have hsound := h.reachable.invariant.sound
  obtain ⟨hamount, -⟩ := h.coherent.payment p payment request hp hr
  have hlinked : ∃ r, request.budgetReservationId = some r := by
    cases hlink : request.budgetReservationId with
    | none =>
      have hnone : reservationView s.db request = none := by simp [reservationView, hlink]
      rw [show (viewOf s.db p payment request).reservation = reservationView s.db request from rfl,
        hnone] at hres
      cases hres
    | some r => exact ⟨r, rfl⟩
  obtain ⟨r, hlink⟩ := hlinked
  obtain ⟨row, hrow, -⟩ := hsound.reservation _ request r hr hlink
  obtain ⟨-, hreserved, -⟩ := h.coherent.reservation _ request r row hr hlink hrow
  have hunits : (row.amount.units : ℚ) = amount.units := by
    rw [hunits, hreserved, ← hamount]
    rfl
  constructor
  · rintro ⟨⟨payment', request', r', row', hp', hr', hlink', hrow', hminor⟩, -⟩
    obtain rfl := Option.some.inj (hp.symm.trans hp')
    obtain rfl := Option.some.inj (hr.symm.trans hr')
    obtain rfl := Option.some.inj (hlink.symm.trans hlink')
    obtain rfl := Option.some.inj (hrow.symm.trans hrow')
    exact ⟨_, hunits.symm.trans hminor⟩
  · intro hplaces
    have hminor := amountMinor_exact_iff.mpr hplaces
    refine ⟨⟨payment, request, r, row, hp, hr, hlink, hrow, hunits.trans hminor.symm⟩, ?_⟩
    intro hcapture
    have hcapture : (journalView s.db p).capture = true := hcapture
    have hdebits := h.debitsOnce hv
    have hjournals : (viewOf s.db p payment request).journals = journalView s.db p := rfl
    rw [PaymentView.DebitsOnce, hjournals, if_pos hcapture] at hdebits
    have hdebits : ((journalView s.db p).debited : ℚ) = payment.amount.units := by
      exact_mod_cast hdebits
    rw [hamount, ← hreserved, hunits] at hdebits
    exact hdebits.trans hminor.symm

end State.Occurs

/-! ### The service -/

/-- What a call of the service reserves, and consumes when it succeeds, is the amount charged. -/
structure ServiceCall.OneAmount (s : PaymentService) (intent : ServiceIntent) (call : ServiceCall)
    (charge : ServiceCharge) : Prop where
  reserved : ∃ budget, s.budget.reserve intent.amount = .ok (true, budget) ∧
    budget.reserved - s.budget.reserved = charge.amountMinor * 100
  consumed : ∀ result, call.result = .ok result → result.status = .succeeded →
    call.service.budget.consumed - s.budget.consumed = charge.amountMinor * 100

namespace PaymentService

variable {s : PaymentService} {intent : ServiceIntent} {answer : ProviderOutcome}

/-- A call that sends a charge has reserved the amount of its intent. -/
lemma createPayment_charge {route : Except Error Unit} {charge : ServiceCharge}
    (hcharge : (s.createPayment intent route answer).charge = some charge) :
    ∃ budget decision, s.budget.reserve intent.amount = .ok (true, budget) ∧
      s.createPayment intent route answer =
        remember intent ({ s with budget }.execute intent decision answer) := by
  simp only [createPayment] at hcharge ⊢
  cases hlookup : s.idempotency.lookup intent.idempotencyKey with
  | some previous =>
    simp only [hlookup] at hcharge
    split_ifs at hcharge
  | none =>
    simp only [hlookup, remember_charge] at hcharge ⊢
    generalize (s.policy.evaluateWithTrace intent.toPaymentIntent none).decision = decision
      at hcharge ⊢
    cases decision with
    | deny | requireApproval => cases hcharge
    | allowAuto | allowNotify =>
      cases route with
      | error e => cases hcharge
      | ok =>
        cases hreserve : s.budget.reserve intent.amount with
        | error e =>
          simp only [hreserve] at hcharge
          cases hcharge
        | ok reserved =>
          obtain ⟨available, budget⟩ := reserved
          cases available with
          | false =>
            simp only [hreserve] at hcharge
            cases hcharge
          | true => exact ⟨budget, _, rfl, rfl⟩

lemma execute_charge (s : PaymentService) (intent : ServiceIntent) (decision : Decision)
    (answer : ProviderOutcome) :
    (s.execute intent decision answer).charge = some intent.charge := by
  cases answer with
  | unknown => rfl
  | succeeded | failed =>
    simp only [execute]
    split <;> rfl

/-- A call that succeeds has consumed the amount it reserved. -/
lemma execute_consumed {decision : Decision} {result : PaymentResult}
    (hresult : (s.execute intent decision answer).result = .ok result)
    (hsucceeded : result.status = .succeeded) :
    (s.execute intent decision answer).service.budget.consumed =
      s.budget.consumed + intent.amount.units := by
  cases answer with
  | unknown =>
    obtain rfl := Except.ok.inj hresult
    cases hsucceeded
  | failed =>
    simp only [execute] at hresult
    split at hresult
    · cases hresult
    · obtain rfl := Except.ok.inj hresult
      cases hsucceeded
  | succeeded =>
    simp only [execute] at hresult ⊢
    cases hconsume : s.budget.consume intent.amount with
    | error e =>
      simp only [hconsume] at hresult
      cases hresult
    | ok budget =>
      simp only [MemoryBudget.consume] at hconsume
      split_ifs at hconsume
      obtain rfl := Except.ok.inj hconsume
      rfl

/-- The charge of a call of the service. -/
lemma oneAmount_iff {route : Except Error Unit} {charge : ServiceCharge}
    (hcharge : (s.createPayment intent route answer).charge = some charge) :
    (s.createPayment intent route answer).OneAmount s intent charge ↔
      intent.amount.TwoPlaces := by
  obtain ⟨budget, decision, hreserve, hcall⟩ := createPayment_charge hcharge
  have hreserved : budget.reserved - s.budget.reserved = intent.amount.units ∧
      budget.consumed = s.budget.consumed := by
    have hrun := hreserve
    simp only [MemoryBudget.reserve] at hrun
    split_ifs at hrun
    · cases Except.ok.inj hrun
    · obtain ⟨-, rfl⟩ := Prod.mk.inj (Except.ok.inj hrun)
      exact ⟨add_sub_cancel_left _ _, rfl⟩
  rw [hcall, remember_charge, execute_charge] at hcharge
  have hminor : charge.amountMinor = amountMinor intent.amount := by
    rw [← Option.some.inj hcharge]
    rfl
  rw [← amountMinor_exact_iff, ← hminor]
  constructor
  · rintro ⟨⟨budget', hreserve', hexact⟩, -⟩
    obtain ⟨-, rfl⟩ := Prod.mk.inj (Except.ok.inj (hreserve.symm.trans hreserve'))
    exact hexact.symm.trans hreserved.1
  · intro hexact
    refine ⟨⟨budget, hreserve, hreserved.1.trans hexact.symm⟩, fun result hresult hsucceeded => ?_⟩
    rw [hcall, remember_result] at hresult
    rw [hcall, remember_budget, execute_consumed hresult hsucceeded, hreserved.2, hexact]
    exact add_sub_cancel_left _ _

end PaymentService

/-! ### The three paths -/

/-- The charge a worker is about to send, judged on the books of any later state. -/
lemma State.Occurs.claim_iff {env : Env} {s : State} (h : s.Occurs env) {w : ℕ} {c : Worker.Claim}
    (hcalling : s.workers[w]? = some (.calling c)) (as : List Action) :
    OneAmount (Machine.run (State.step env) s as).db c.charge ↔ c.amount.toDecimal.TwoPlaces := by
  obtain ⟨v, hv, hdescribes⟩ :=
    h.reachable.invariant.claims _ (List.mem_of_getElem? hcalling) c rfl
  obtain ⟨status, hres⟩ := hdescribes.reservation
  obtain ⟨v', hv', hamount, hres'⟩ :=
    h.holds ⟨v, hv, hdescribes.amount, by rw [hres]; rfl⟩ as
  exact (h.run as).oneAmount_iff hv' hres' (by rw [Amount.units_toDecimal, hamount]) c.currency

/-- On each of the three paths to the provider the amount charged is the one that is reserved,
consumed and posted exactly when the amount has at most two places. -/
theorem oneAmount_iff_twoPlaces (env : Env) :
    (∀ (s : State) (w : ℕ) (c : Worker.Claim), s.Occurs env →
      s.workers[w]? = some (.calling c) → ∀ as,
        (OneAmount (Machine.run (State.step env) s as).db c.charge ↔
          c.amount.toDecimal.TwoPlaces)) ∧
    (∀ (s : State) (p : PaymentId) (v : PaymentView) (amount : Decimal)
      (currency : String), s.Occurs env → view s.db p = some v → v.reservation.isSome →
      amount.units = v.amount.units → ∀ as,
        (OneAmount (Machine.run (State.step env) s as).db
          (PaymentOrchestrator.executeExternal p amount currency) ↔ amount.TwoPlaces)) ∧
    ∀ (s : PaymentService) (intent : ServiceIntent) (route : Except Error Unit)
      (answer : ProviderOutcome) (charge : ServiceCharge),
      (s.createPayment intent route answer).charge = some charge →
        ((s.createPayment intent route answer).OneAmount s intent charge ↔
          intent.amount.TwoPlaces) := by
  refine ⟨fun s w c h hcalling as => h.claim_iff hcalling as, ?_,
    fun s intent route answer charge hcharge => PaymentService.oneAmount_iff hcharge⟩
  intro s p v amount currency h hv hres hunits as
  obtain ⟨v', hv', hamount, hres'⟩ := h.holds ⟨v, hv, rfl, hres⟩ as
  exact (h.run as).oneAmount_iff hv' hres' (by rw [hunits, hamount]) currency

/-! ### A sample of each -/

lemma usd_iso : "USD".length = 3 := by decide

/-- A call that asks for an amount of USD. -/
def CreateCall.for (digits : ℕ) (places : Fin 5) : CreateCall :=
  { CreateCall.sample "key" digits with
    request := { (CreateCall.sample "key" digits).request with
      amount := ⟨digits, places, "USD", usd_iso⟩ } }

/-- A worker is about to charge the payment that a call has created. -/
def State.aboutToCharge (call : CreateCall) : State :=
  Machine.run (step Env.sample) (.start (Db.sample [.sample]))
    (Action.create 0 0 call ++ [.mark 0 ⟨0, 1⟩, .read 0])

lemma State.aboutToCharge_occurs (call : CreateCall) : (aboutToCharge call).Occurs Env.sample :=
  ⟨_, _, Db.sample_fresh _, rfl⟩

/-- An intent of the service. -/
def ServiceIntent.sample (digits : ℕ) : ServiceIntent :=
  { amount := ⟨digits, 0⟩, currency := "USD", merchantDomain := "example.com",
    paymentId := "payment", agentId := "agent", idempotencyKey := "key",
    nonneg := Int.natCast_nonneg digits, iso := usd_iso }

/-- What the worker has read of the payment. -/
def Worker.Claim.sample (units : ℕ) (pos : 0 < units) (fits : units < numericLimit) : Claim :=
  ⟨0, 0, 0, ⟨units, pos, fits⟩, "USD", ⟨0, 1⟩⟩

/-- A service that limits a transaction to 500 and has a budget of 1000. -/
def PaymentService.sample : PaymentService where
  policy := .sample
  budget := ⟨10000000, 0, 0⟩
  idempotency := []

/-- 10.00 is the amount everywhere. -/
theorem oneAmount_sample :
    OneAmount (State.aboutToCharge (.for 10 0)).db
        (Worker.Claim.sample 100000 (by decide) (by decide)).charge ∧
      OneAmount (State.aboutToCharge (.for 10 0)).db
        (PaymentOrchestrator.executeExternal 0 ⟨10, 0⟩ "USD") ∧
      (PaymentService.sample.createPayment (.sample 10) (.ok ()) .succeeded).OneAmount .sample
        (.sample 10) (ServiceIntent.sample 10).charge := by
  obtain ⟨hworker, hexecute, hservice⟩ := oneAmount_iff_twoPlaces Env.sample
  have hoccurs := State.aboutToCharge_occurs (.for 10 0)
  have htwo : (⟨10, 0⟩ : Decimal).TwoPlaces := ⟨1000, by norm_num [Decimal.units]⟩
  refine ⟨(hworker _ 0 _ hoccurs (by decide +kernel) []).mpr
    (Amount.twoPlaces_iff.mpr (by decide)), ?_, ?_⟩
  · have hview : (view (State.aboutToCharge (.for 10 0)).db 0).map
        (fun v => (v.amount.units, v.reservation.isSome)) = some (100000, true) := by
      decide +kernel
    obtain ⟨v, hv, hfields⟩ := Option.map_eq_some_iff.mp hview
    obtain ⟨hunits, hres⟩ := Prod.mk.inj hfields
    refine (hexecute _ 0 v ⟨10, 0⟩ "USD" hoccurs hv hres ?_ []).mpr htwo
    rw [hunits]
    norm_num [Decimal.units]
  · exact (hservice _ _ _ _ _ (by decide +kernel)).mpr htwo

/-- 10.005 is admitted and reserved, and 10.00 is charged. -/
theorem oneAmount_truncates :
    (State.aboutToCharge (.for 10005 3)).Occurs Env.sample ∧
      (State.aboutToCharge (.for 10005 3)).workers[0]? =
        some (.calling (.sample 100050 (by decide) (by decide))) ∧
      (Worker.Claim.sample 100050 (by decide) (by decide)).charge.amountMinor = 1000 ∧
      ¬OneAmount (State.aboutToCharge (.for 10005 3)).db
        (Worker.Claim.sample 100050 (by decide) (by decide)).charge := by
  have hoccurs := State.aboutToCharge_occurs (.for 10005 3)
  have hcalling : (State.aboutToCharge (.for 10005 3)).workers[0]? =
      some (.calling (.sample 100050 (by decide) (by decide))) := by decide +kernel
  refine ⟨hoccurs, hcalling, rfl, fun hagrees => ?_⟩
  have hplaces := (hoccurs.claim_iff hcalling []).mp hagrees
  exact absurd (Amount.twoPlaces_iff.mp hplaces) (by decide)

end AgentPay
