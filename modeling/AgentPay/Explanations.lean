import AgentPay.PolicyRules

/-!
# What the reasons explain

A denial comes with its reasons, the constraints of the policy that stand against the intent.
Lifting some of the constraints leaves exactly the other reasons: so the denial is lifted by all of
them together and by nothing less, and a constraint that gives no reason has no part in it.
-/

namespace AgentPay

/-! ### Lifting constraints -/

/-- `kept` where the constraint stays, `lifted` where its reason is among the codes. -/
def unlessLifted {α : Type} (codes : List String) (reason : String) (lifted kept : α) : α :=
  if reason ∈ codes then lifted else kept

/-- The reason that the weekdays give on an intent. -/
def weekdayReason (requestedAt : Option Instant) : String :=
  if requestedAt.isSome then "WEEKDAY_NOT_ALLOWED" else "REQUEST_TIME_REQUIRED"

/-- The reason that the time window gives on an intent. -/
def windowReason (requestedAt : Option Instant) : String :=
  if requestedAt.isSome then "TIME_WINDOW_NOT_ALLOWED" else "REQUEST_TIME_REQUIRED"

/-- The policy without the constraints whose reason is among the codes. The limit is raised to the
amount of the intent where it is lower. -/
def SpendingPolicy.relax (policy : SpendingPolicy) (intent : PaymentIntent)
    (codes : List String) : SpendingPolicy :=
  { policy with
    perTransactionLimit := unlessLifted codes "AMOUNT_EXCEEDS_TRANSACTION_LIMIT"
      (if policy.perTransactionLimit.units < (Limit.finite intent.amount).units then
        .finite intent.amount else policy.perTransactionLimit) policy.perTransactionLimit
    deniedCurrencies := unlessLifted codes "CURRENCY_DENIED" [] policy.deniedCurrencies
    allowedCurrencies := unlessLifted codes "CURRENCY_NOT_ALLOWED" none policy.allowedCurrencies
    deniedCategories := unlessLifted codes "CATEGORY_DENIED" [] policy.deniedCategories
    allowedCategories := unlessLifted codes "CATEGORY_NOT_ALLOWED" none policy.allowedCategories
    deniedDomains := unlessLifted codes "MERCHANT_DOMAIN_DENIED" [] policy.deniedDomains
    allowedDomains := unlessLifted codes "MERCHANT_DOMAIN_NOT_ALLOWED" none policy.allowedDomains
    deniedRegions := unlessLifted codes "REGION_DENIED" [] policy.deniedRegions
    allowedRegions := unlessLifted codes "REGION_NOT_ALLOWED" none policy.allowedRegions
    deniedInstrumentClasses :=
      unlessLifted codes "INSTRUMENT_CLASS_DENIED" [] policy.deniedInstrumentClasses
    allowedInstrumentClasses :=
      unlessLifted codes "INSTRUMENT_CLASS_NOT_ALLOWED" none policy.allowedInstrumentClasses
    allowedWeekdays :=
      unlessLifted codes (weekdayReason intent.requestedAt) none policy.allowedWeekdays
    startTime := unlessLifted codes (windowReason intent.requestedAt) none policy.startTime
    endTime := unlessLifted codes (windowReason intent.requestedAt) none policy.endTime }

variable {codes : List String}

/-- The reasons that are left. -/
def remaining (codes reasons : List String) : List String :=
  reasons.filter fun reason => decide (reason ∉ codes)

lemma remaining_append (l m : List String) :
    remaining codes (l ++ m) = remaining codes l ++ remaining codes m :=
  List.filter_append l m

/-- One constraint, whether it is lifted or not. -/
lemma reasonIf_remaining {condition condition' : Bool} {reason : String}
    (hlifted : reason ∈ codes → condition' = false)
    (hkept : reason ∉ codes → condition' = condition) :
    reasonIf condition' reason = remaining codes (reasonIf condition reason) := by
  by_cases hcode : reason ∈ codes
  · rw [hlifted hcode]
    cases condition <;> simp [reasonIf, remaining, hcode]
  · rw [hkept hcode]
    cases condition <;> simp [reasonIf, remaining, hcode]

/-- The two lists of a dimension. -/
lemma listReasons_remaining (value : Option String) (denied : List String)
    (allowed : Option (List String)) (deniedReason notAllowedReason : String) :
    listReasons value (unlessLifted codes deniedReason [] denied)
        (unlessLifted codes notAllowedReason none allowed) deniedReason notAllowedReason =
      remaining codes (listReasons value denied allowed deniedReason notAllowedReason) := by
  rw [listReasons, listReasons, remaining_append]
  congr 1
  · refine reasonIf_remaining (fun h => ?_) fun h => ?_
    · rw [unlessLifted, if_pos h]
      cases value <;> simp
    · rw [unlessLifted, if_neg h]
  · refine reasonIf_remaining (fun h => ?_) fun h => ?_
    · rw [unlessLifted, if_pos h]
      rfl
    · rw [unlessLifted, if_neg h]

/-- Constraints that give the one reason alone. -/
lemma remaining_of_eq (reason : String) {reasons : List String}
    (h : ∀ r ∈ reasons, r = reason) :
    remaining codes reasons = unlessLifted codes reason [] reasons := by
  by_cases hcode : reason ∈ codes
  · rw [unlessLifted, if_pos hcode]
    exact List.filter_eq_nil_iff.mpr fun r hr => by simp [h r hr, hcode]
  · rw [unlessLifted, if_neg hcode]
    exact List.filter_eq_self.mpr fun r hr => by simp [h r hr, hcode]

/-- The weekdays, and the time window. -/
lemma scheduleReasons_remaining (policy : SpendingPolicy) (intent : PaymentIntent) :
    scheduleReasons (policy.relax intent codes) intent.requestedAt =
      remaining codes (scheduleReasons policy intent.requestedAt) := by
  unfold scheduleReasons
  rw [remaining_append]
  congr 1
  · rw [remaining_of_eq (weekdayReason intent.requestedAt)]
    · simp only [SpendingPolicy.relax, unlessLifted]
      split_ifs <;> rfl
    · intro r hr
      split at hr
      · cases hr
      · rename_i hat
        rw [weekdayReason, hat]
        simpa using hr
      · rename_i hat
        rw [weekdayReason, hat]
        exact (mem_reasonIf.mp hr).2
  · rw [remaining_of_eq (windowReason intent.requestedAt)]
    · simp only [SpendingPolicy.relax, unlessLifted]
      by_cases hcode : windowReason intent.requestedAt ∈ codes
      · simp [hcode]
      · simp [hcode]
    · intro r hr
      split_ifs at hr
      · split at hr
        · rename_i hat
          rw [windowReason, hat]
          simpa using hr
        · rename_i hat
          rw [windowReason, hat]
          exact (mem_reasonIf.mp hr).2
      · cases hr

/-- The reasons of a policy without some of its constraints are the others. -/
lemma SpendingPolicy.denyReasons_relax (policy : SpendingPolicy) (intent : PaymentIntent)
    (category : Option String) (codes : List String) :
    (policy.relax intent codes).denyReasons intent category =
      remaining codes (policy.denyReasons intent category) := by
  have hamount : reasonIf
      (decide ((policy.relax intent codes).perTransactionLimit.units <
        (Limit.finite intent.amount).units))
        "AMOUNT_EXCEEDS_TRANSACTION_LIMIT" = remaining codes (reasonIf
          (decide (policy.perTransactionLimit.units < (Limit.finite intent.amount).units))
            "AMOUNT_EXCEEDS_TRANSACTION_LIMIT") := by
    refine reasonIf_remaining (fun h => decide_eq_false ?_) fun h => ?_
    · simp only [relax, unlessLifted, if_pos h]
      split_ifs with hlow
      · exact lt_irrefl _
      · exact hlow
    · simp only [relax, unlessLifted, if_neg h]
  simp only [denyReasons, remaining_append, ← hamount, ← listReasons_remaining,
    ← scheduleReasons_remaining]
  rfl

/-- The decision with its reasons, where the limit is configured. -/
lemma SpendingPolicy.evaluate_deny {policy : SpendingPolicy}
    (hlimit : 0 < policy.perTransactionLimit.units) {intent : PaymentIntent}
    {category : Option String} (hreasons : policy.denyReasons intent category ≠ []) :
    policy.evaluateWithTrace intent category =
      ⟨.deny, policy.denyReasons intent category⟩ := by
  rw [evaluateWithTrace, if_neg (not_le.mpr hlimit)]
  cases hcons : policy.denyReasons intent category with
  | nil => exact absurd hcons hreasons
  | cons reason reasons => rfl

/-- Without a reason to deny, the amount decides. -/
lemma SpendingPolicy.evaluate_passes {policy : SpendingPolicy}
    (hlimit : 0 < policy.perTransactionLimit.units) {intent : PaymentIntent}
    {category : Option String} (hreasons : policy.denyReasons intent category = []) :
    (policy.evaluateWithTrace intent category).decision ≠ .deny ∧
      ∀ policy' : SpendingPolicy, 0 < policy'.perTransactionLimit.units →
        policy'.denyReasons intent category = [] → policy'.approvalAbove = policy.approvalAbove →
        policy'.notifyAbove = policy.notifyAbove →
        policy'.evaluateWithTrace intent category = policy.evaluateWithTrace intent category := by
  constructor
  · rw [evaluateWithTrace, if_neg (not_le.mpr hlimit), hreasons]
    dsimp only
    split_ifs <;> exact Decision.noConfusion
  · intro policy' hlimit' hreasons' happroval hnotify
    rw [evaluateWithTrace, evaluateWithTrace, if_neg (not_le.mpr hlimit),
      if_neg (not_le.mpr hlimit'), hreasons, hreasons', happroval, hnotify]

/-- The reasons of a denial are what it takes to lift it. Without the constraints of some of the
codes the policy still denies exactly when a reason is not among them, and gives the reasons that
are left; and a decision that is not a denial stays as it is. -/
theorem SpendingPolicy.evaluate_relax {policy : SpendingPolicy}
    (hlimit : 0 < policy.perTransactionLimit.units) (intent : PaymentIntent)
    (category : Option String) (codes : List String) :
    let decided := policy.evaluateWithTrace intent category
    let relaxed := (policy.relax intent codes).evaluateWithTrace intent category
    (decided.decision = .deny →
      (relaxed.decision = .deny ↔ ∃ reason ∈ decided.reasons, reason ∉ codes) ∧
      (relaxed.decision = .deny → relaxed.reasons = remaining codes decided.reasons)) ∧
    (decided.decision ≠ .deny → relaxed = decided) := by
  intro decided relaxed
  have hraised : 0 < (policy.relax intent codes).perTransactionLimit.units := by
    simp only [relax, unlessLifted]
    split_ifs with hcode hlow
    · exact hlimit.trans hlow
    · exact hlimit
    · exact hlimit
  have hleft := policy.denyReasons_relax intent category codes
  by_cases hreasons : policy.denyReasons intent category = []
  · obtain ⟨hpasses, hsame⟩ := evaluate_passes hlimit hreasons
    refine ⟨fun hdeny => absurd hdeny hpasses, fun _ => hsame _ hraised ?_ rfl rfl⟩
    rw [hleft, hreasons]
    rfl
  · have hdecided : decided = ⟨.deny, policy.denyReasons intent category⟩ :=
      evaluate_deny hlimit hreasons
    refine ⟨fun _ => ?_, fun hnot => absurd (hdecided ▸ rfl) hnot⟩
    rw [hdecided]
    by_cases hnone : remaining codes (policy.denyReasons intent category) = []
    · obtain ⟨hpasses, -⟩ := evaluate_passes hraised (hleft.trans hnone)
      have hall : ∀ reason ∈ policy.denyReasons intent category, reason ∈ codes := fun r hr => by
        simpa using List.filter_eq_nil_iff.mp hnone r hr
      refine ⟨iff_of_false hpasses ?_, fun hdeny => absurd hdeny hpasses⟩
      rintro ⟨reason, hreason, hnot⟩
      exact hnot (hall reason hreason)
    · have hrelaxed : relaxed = ⟨.deny, remaining codes (policy.denyReasons intent category)⟩ := by
        rw [← hleft]
        exact evaluate_deny hraised (hleft ▸ hnone)
      obtain ⟨reason, hreason⟩ := List.exists_mem_of_ne_nil _ hnone
      obtain ⟨hmem, hnot⟩ := List.mem_filter.mp hreason
      rw [hrelaxed]
      exact ⟨iff_of_true rfl ⟨reason, hmem, of_decide_eq_true hnot⟩, fun _ => rfl⟩

/-- Up to 5 EUR, on Mondays. -/
def SpendingPolicy.mondays : SpendingPolicy where
  perTransactionLimit := .finite ⟨5, 0⟩
  allowedCurrencies := some ["EUR"]
  allowedWeekdays := some [⟨0, by decide⟩]

/-- 10 USD at no known time. -/
def PaymentIntent.untimed : PaymentIntent where
  amount := ⟨10, 0⟩
  currency := "usd"
  merchantDomain := ""

/-- Three reasons, of which raising the limit leaves two. -/
theorem SpendingPolicy.evaluate_relax_mondays :
    let decided := mondays.evaluateWithTrace .untimed none
    let relaxed := (mondays.relax .untimed ["AMOUNT_EXCEEDS_TRANSACTION_LIMIT"]).evaluateWithTrace
      .untimed none
    ((decided.decision = .deny →
        (relaxed.decision = .deny ↔
          ∃ reason ∈ decided.reasons, reason ∉ ["AMOUNT_EXCEEDS_TRANSACTION_LIMIT"]) ∧
        (relaxed.decision = .deny →
          relaxed.reasons = remaining ["AMOUNT_EXCEEDS_TRANSACTION_LIMIT"] decided.reasons)) ∧
      (decided.decision ≠ .deny → relaxed = decided)) ∧
    relaxed.reasons = ["CURRENCY_NOT_ALLOWED", "REQUEST_TIME_REQUIRED"] :=
  ⟨evaluate_relax (by decide +kernel) .untimed none _, by decide +kernel⟩

end AgentPay
