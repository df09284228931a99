import AgentPay.Policy
import Mathlib.Order.Lattice
import Mathlib.Data.List.Basic

/-!
# The order of decisions

A decision is a function of the normalised context alone: `evaluate_with_trace` denies what a list,
the schedule or the limit does not admit, and compares the amount with two thresholds otherwise.
Restricting the policy or raising the amount can only make the decision stricter. Leaving context
out can make it laxer, where a list names what is left out.
-/

namespace AgentPay

/-! ### Decisions in order -/

/-- ALLOW_AUTO < ALLOW_NOTIFY < REQUIRE_APPROVAL < DENY -/
def Decision.severity : Decision → ℕ
  | .allowAuto       => 0
  | .allowNotify     => 1
  | .requireApproval => 2
  | .deny            => 3

lemma Decision.severity_injective : Function.Injective Decision.severity := by
  intro a b h
  cases a <;> cases b <;> first | rfl | cases h

instance : LinearOrder Decision := LinearOrder.lift' Decision.severity Decision.severity_injective

lemma Decision.le_deny (d : Decision) : d ≤ .deny := by cases d <;> decide

lemma Decision.allowAuto_le (d : Decision) : .allowAuto ≤ d := by cases d <;> decide

/-! ### What a policy admits -/

/-- The normalised context of an intent. -/
structure PolicyContext where
  amount : WithBot (WithTop ℚ)
  currency : String
  category : Option String
  domain : String
  region : Option String
  instrumentClass : Option String
  requestedAt : Option Instant

/-- The context that `evaluate_with_trace` compares. -/
def PaymentIntent.context (intent : PaymentIntent) (category : Option String) : PolicyContext where
  amount := (Limit.finite intent.amount).units
  currency := upper (strip intent.currency)
  category := orNone (lower (strip
    (((category.bind orNone).orElse fun _ => intent.merchantCategory).getD "")))
  domain := lower (strip intent.merchantDomain)
  region := orNone (upper (strip (intent.region.getD "")))
  instrumentClass := orNone (lower (strip (intent.instrumentClass.getD "")))
  requestedAt := intent.requestedAt

/-- A value passes a deny list and an allow list. -/
structure Passes (value : Option String) (denied : List String) (allowed : Option (List String)) :
    Prop where
  denied : ∀ x ∈ value, x ∉ denied
  allowed : ∀ names ∈ allowed, ∃ x ∈ value, x ∈ names

lemma reasonIf_eq_nil {condition : Bool} {reason : String} :
    reasonIf condition reason = [] ↔ condition = false := by
  cases condition <;> simp [reasonIf]

lemma listReasons_eq_nil {value : Option String} {denied : List String}
    {allowed : Option (List String)} {deniedReason notAllowedReason : String} :
    listReasons value denied allowed deniedReason notAllowedReason = [] ↔
      Passes value denied allowed := by
  rw [listReasons, List.append_eq_nil_iff, reasonIf_eq_nil, reasonIf_eq_nil]
  constructor
  · rintro ⟨hdenied, hallowed⟩
    refine ⟨fun x hx => ?_, fun names hnames => ?_⟩
    · obtain rfl := Option.mem_def.mp hx
      simpa using hdenied
    · obtain rfl := Option.mem_def.mp hnames
      cases value with
      | none => simp at hallowed
      | some x => exact ⟨x, rfl, by simpa using hallowed⟩
  · rintro ⟨hdenied, hallowed⟩
    constructor
    · cases value with
      | none => rfl
      | some x => simpa using hdenied x rfl
    · cases allowed with
      | none => rfl
      | some names =>
        obtain ⟨x, rfl, hx⟩ := hallowed names rfl
        simpa using hx

/-- The schedule asks for the time of day. -/
def SpendingPolicy.HasWindow (policy : SpendingPolicy) : Prop :=
  policy.startTime.isSome ∨ policy.endTime.isSome

/-- The time of day is accepted. -/
def SpendingPolicy.Accepts (policy : SpendingPolicy) (t : TimeOfDay) : Prop :=
  timeInWindow t policy.startTime policy.endTime = true

/-- No list, no schedule and no limit stands against the context. -/
structure SpendingPolicy.Admits (policy : SpendingPolicy) (c : PolicyContext) : Prop where
  amount : c.amount ≤ policy.perTransactionLimit.units
  currency : Passes (some c.currency) policy.deniedCurrencies policy.allowedCurrencies
  category : Passes c.category policy.deniedCategories policy.allowedCategories
  domain : Passes (some c.domain) policy.deniedDomains policy.allowedDomains
  region : Passes c.region policy.deniedRegions policy.allowedRegions
  instrumentClass :
    Passes c.instrumentClass policy.deniedInstrumentClasses policy.allowedInstrumentClasses
  weekday : ∀ days ∈ policy.allowedWeekdays, ∃ t ∈ c.requestedAt, t.weekday ∈ days
  window : policy.HasWindow → ∃ t ∈ c.requestedAt, policy.Accepts t.timeOfDay

lemma SpendingPolicy.scheduleReasons_eq_nil {policy : SpendingPolicy}
    {requestedAt : Option Instant} :
    scheduleReasons policy requestedAt = [] ↔
      (∀ days ∈ policy.allowedWeekdays, ∃ t ∈ requestedAt, t.weekday ∈ days) ∧
      (policy.HasWindow → ∃ t ∈ requestedAt, policy.Accepts t.timeOfDay) := by
  unfold scheduleReasons
  rw [List.append_eq_nil_iff]
  refine and_congr ?_ ?_
  · cases policy.allowedWeekdays <;> cases requestedAt <;> simp [reasonIf_eq_nil]
  · unfold HasWindow Accepts
    cases requestedAt <;> simp [reasonIf_eq_nil]

/-- The reasons are a function of the normalised context. -/
def SpendingPolicy.contextReasons (policy : SpendingPolicy) (c : PolicyContext) : List String :=
  reasonIf (decide (policy.perTransactionLimit.units < c.amount))
      "AMOUNT_EXCEEDS_TRANSACTION_LIMIT" ++
    listReasons (some c.currency) policy.deniedCurrencies policy.allowedCurrencies
      "CURRENCY_DENIED" "CURRENCY_NOT_ALLOWED" ++
    listReasons c.category policy.deniedCategories policy.allowedCategories
      "CATEGORY_DENIED" "CATEGORY_NOT_ALLOWED" ++
    listReasons (some c.domain) policy.deniedDomains policy.allowedDomains
      "MERCHANT_DOMAIN_DENIED" "MERCHANT_DOMAIN_NOT_ALLOWED" ++
    listReasons c.region policy.deniedRegions policy.allowedRegions
      "REGION_DENIED" "REGION_NOT_ALLOWED" ++
    listReasons c.instrumentClass policy.deniedInstrumentClasses policy.allowedInstrumentClasses
      "INSTRUMENT_CLASS_DENIED" "INSTRUMENT_CLASS_NOT_ALLOWED" ++
    scheduleReasons policy c.requestedAt

lemma SpendingPolicy.denyReasons_eq (policy : SpendingPolicy) (intent : PaymentIntent)
    (category : Option String) :
    policy.denyReasons intent category = policy.contextReasons (intent.context category) := by
  simp only [denyReasons, contextReasons, PaymentIntent.context]
  rfl

lemma SpendingPolicy.contextReasons_eq_nil {policy : SpendingPolicy} {c : PolicyContext} :
    policy.contextReasons c = [] ↔ policy.Admits c := by
  unfold contextReasons
  simp only [List.append_eq_nil_iff, reasonIf_eq_nil, listReasons_eq_nil, scheduleReasons_eq_nil,
    decide_eq_false_iff_not, not_lt]
  constructor
  · rintro ⟨⟨⟨⟨⟨⟨hamount, hcurrency⟩, hcategory⟩, hdomain⟩, hregion⟩, hclass⟩, hweekday, hwindow⟩
    exact ⟨hamount, hcurrency, hcategory, hdomain, hregion, hclass, hweekday, hwindow⟩
  · intro h
    exact ⟨⟨⟨⟨⟨⟨h.amount, h.currency⟩, h.category⟩, h.domain⟩, h.region⟩, h.instrumentClass⟩,
      h.weekday, h.window⟩

lemma SpendingPolicy.denyReasons_eq_nil {policy : SpendingPolicy} {intent : PaymentIntent}
    {category : Option String} :
    policy.denyReasons intent category = [] ↔ policy.Admits (intent.context category) := by
  rw [denyReasons_eq, contextReasons_eq_nil]

/-- The amount lies above a threshold that is set. -/
def Above (threshold : Option Limit) (amount : WithBot (WithTop ℚ)) : Prop :=
  ∃ limit ∈ threshold, limit.units < amount

/-- The decision on an amount that is admitted. -/
inductive SpendingPolicy.Grades (policy : SpendingPolicy) (amount : WithBot (WithTop ℚ)) :
    Decision → Prop
  | approval (h : Above policy.approvalAbove amount) : Grades policy amount .requireApproval
  | notify (h : ¬ Above policy.approvalAbove amount) (h' : Above policy.notifyAbove amount) :
      Grades policy amount .allowNotify
  | auto (h : ¬ Above policy.approvalAbove amount) (h' : ¬ Above policy.notifyAbove amount) :
      Grades policy amount .allowAuto

/-- The amounts of two limits that are numbers are ordered as the numbers are. -/
lemma Limit.finite_units_le {a b : Decimal} (h : a.units ≤ b.units) :
    (Limit.finite a).units ≤ (Limit.finite b).units := by
  rw [Limit.units_finite, Limit.units_finite]
  exact WithBot.coe_le_coe.mpr (WithTop.coe_le_coe.mpr h)

/-- A policy denies, or it admits the context and grades the amount. -/
lemma SpendingPolicy.evaluate_cases (policy : SpendingPolicy) (intent : PaymentIntent)
    (category : Option String) :
    ((policy.evaluateWithTrace intent category).decision = .deny ∧
        ¬(0 < policy.perTransactionLimit.units ∧ policy.Admits (intent.context category))) ∨
      (0 < policy.perTransactionLimit.units ∧ policy.Admits (intent.context category) ∧
        policy.Grades (Limit.finite intent.amount).units
          (policy.evaluateWithTrace intent category).decision) := by
  have habove (threshold : Option Limit) : (threshold.any fun limit =>
      decide (limit.units < (Limit.finite intent.amount).units)) = true ↔
        Above threshold (Limit.finite intent.amount).units := by
    cases threshold <;> simp [Above]
  by_cases hlimit : policy.perTransactionLimit.units ≤ 0
  · refine .inl ⟨?_, fun h => absurd h.1 (not_lt.mpr hlimit)⟩
    rw [evaluateWithTrace, if_pos hlimit]
  · rw [evaluateWithTrace, if_neg hlimit]
    cases hreasons : policy.denyReasons intent category with
    | cons reason reasons =>
      refine .inl ⟨rfl, fun h => ?_⟩
      rw [denyReasons_eq_nil.mpr h.2] at hreasons
      cases hreasons
    | nil =>
      refine .inr ⟨not_le.mp hlimit, denyReasons_eq_nil.mp hreasons, ?_⟩
      dsimp only
      split_ifs with happroval hnotify
      · exact .approval ((habove _).mp happroval)
      · exact .notify (mt (habove _).mpr happroval) ((habove _).mp hnotify)
      · exact .auto (mt (habove _).mpr happroval) (mt (habove _).mpr hnotify)

/-- The DENY decisions are those on what is not admitted. -/
lemma SpendingPolicy.deny_iff {policy : SpendingPolicy} {intent : PaymentIntent}
    {category : Option String} :
    (policy.evaluateWithTrace intent category).decision = .deny ↔
      ¬(0 < policy.perTransactionLimit.units ∧ policy.Admits (intent.context category)) := by
  rcases policy.evaluate_cases intent category with ⟨hdeny, hnot⟩ | ⟨hlimit, hadmits, hgrades⟩
  · exact iff_of_true hdeny hnot
  · refine iff_of_false (fun hdeny => ?_) fun hnot => hnot ⟨hlimit, hadmits⟩
    rw [hdeny] at hgrades
    cases hgrades

/-! ### Restriction -/

/-- A list or a set of weekdays: the second allows no more, an unset one allowing everything. -/
def AllowsLess {α : Type} (allowed allowed' : Option (List α)) : Prop :=
  ∀ names ∈ allowed, ∃ names' ∈ allowed', names' ⊆ names

/-- The second threshold is no larger, an unset one being infinite. -/
def ThresholdLowered (threshold threshold' : Option Limit) : Prop :=
  ∀ limit ∈ threshold, ∃ limit' ∈ threshold', limit'.units ≤ limit.units

/-- The second policy is pointwise at least as restrictive. -/
structure SpendingPolicy.Restricts (policy policy' : SpendingPolicy) : Prop where
  perTransactionLimit : policy'.perTransactionLimit.units ≤ policy.perTransactionLimit.units
  notifyAbove : ThresholdLowered policy.notifyAbove policy'.notifyAbove
  approvalAbove : ThresholdLowered policy.approvalAbove policy'.approvalAbove
  allowedCategories : AllowsLess policy.allowedCategories policy'.allowedCategories
  deniedCategories : policy.deniedCategories ⊆ policy'.deniedCategories
  allowedDomains : AllowsLess policy.allowedDomains policy'.allowedDomains
  deniedDomains : policy.deniedDomains ⊆ policy'.deniedDomains
  allowedCurrencies : AllowsLess policy.allowedCurrencies policy'.allowedCurrencies
  deniedCurrencies : policy.deniedCurrencies ⊆ policy'.deniedCurrencies
  allowedRegions : AllowsLess policy.allowedRegions policy'.allowedRegions
  deniedRegions : policy.deniedRegions ⊆ policy'.deniedRegions
  allowedInstrumentClasses :
    AllowsLess policy.allowedInstrumentClasses policy'.allowedInstrumentClasses
  deniedInstrumentClasses : policy.deniedInstrumentClasses ⊆ policy'.deniedInstrumentClasses
  allowedWeekdays : AllowsLess policy.allowedWeekdays policy'.allowedWeekdays
  window : policy.HasWindow → policy'.HasWindow ∧ ∀ t, policy'.Accepts t → policy.Accepts t

/-- What passes the stricter lists passes the laxer ones. -/
lemma Passes.mono {value : Option String} {denied denied' : List String}
    {allowed allowed' : Option (List String)} (h : Passes value denied' allowed')
    (hdenied : denied ⊆ denied') (hallowed : AllowsLess allowed allowed') :
    Passes value denied allowed := by
  refine ⟨fun x hx hmem => h.denied x hx (hdenied hmem), fun names hnames => ?_⟩
  obtain ⟨names', hnames', hsub⟩ := hallowed names hnames
  obtain ⟨x, hx, hmem⟩ := h.allowed names' hnames'
  exact ⟨x, hx, hsub hmem⟩

/-- What a stricter policy admits, the laxer one admits with a smaller amount. -/
lemma SpendingPolicy.Admits.mono {policy policy' : SpendingPolicy} (h : policy.Restricts policy')
    {c : PolicyContext} (hadmits : policy'.Admits c) {amount : WithBot (WithTop ℚ)}
    (hamount : amount ≤ c.amount) :
    policy.Admits { c with amount } := by
  refine ⟨hamount.trans (hadmits.amount.trans h.perTransactionLimit), ?_, ?_, ?_, ?_, ?_, ?_, ?_⟩
  · exact hadmits.currency.mono h.deniedCurrencies h.allowedCurrencies
  · exact hadmits.category.mono h.deniedCategories h.allowedCategories
  · exact hadmits.domain.mono h.deniedDomains h.allowedDomains
  · exact hadmits.region.mono h.deniedRegions h.allowedRegions
  · exact hadmits.instrumentClass.mono h.deniedInstrumentClasses h.allowedInstrumentClasses
  · intro days hdays
    obtain ⟨days', hdays', hsub⟩ := h.allowedWeekdays days hdays
    obtain ⟨t, ht, hmem⟩ := hadmits.weekday days' hdays'
    exact ⟨t, ht, hsub hmem⟩
  · intro hwindow
    obtain ⟨hwindow', haccepts⟩ := h.window hwindow
    obtain ⟨t, ht, hin⟩ := hadmits.window hwindow'
    exact ⟨t, ht, haccepts _ hin⟩

lemma Above.mono {threshold threshold' : Option Limit} {amount amount' : WithBot (WithTop ℚ)}
    (h : ThresholdLowered threshold threshold') (hamount : amount ≤ amount')
    (habove : Above threshold amount) : Above threshold' amount' := by
  obtain ⟨limit, hlimit, hlt⟩ := habove
  obtain ⟨limit', hlimit', hle⟩ := h limit hlimit
  exact ⟨limit', hlimit', hle.trans_lt (hlt.trans_le hamount)⟩

/-- Lower thresholds grade a larger amount at least as strictly. -/
lemma SpendingPolicy.Grades.mono {policy policy' : SpendingPolicy} (h : policy.Restricts policy')
    {amount amount' : WithBot (WithTop ℚ)} (hamount : amount ≤ amount') {d d' : Decision}
    (hd : policy.Grades amount d) (hd' : policy'.Grades amount' d') : d ≤ d' := by
  cases hd with
  | approval happroval =>
    cases hd' with
    | approval => exact le_refl _
    | notify hnot | auto hnot => exact absurd (happroval.mono h.approvalAbove hamount) hnot
  | notify _ hnotify =>
    cases hd' with
    | approval => decide
    | notify => exact le_refl _
    | auto _ hnot => exact absurd (hnotify.mono h.notifyAbove hamount) hnot
  | auto => exact d'.allowAuto_le

/-- The amount enters the context as it is. -/
lemma PaymentIntent.context_amount (intent : PaymentIntent) (amount : Decimal)
    (category : Option String) : ({ intent with amount } : PaymentIntent).context category =
      { intent.context category with amount := (Limit.finite amount).units } := by
  simp only [context]

lemma PaymentIntent.context_self (intent : PaymentIntent) (category : Option String) :
    intent.context category = { intent.context category with
      amount := (Limit.finite intent.amount).units } := by
  simp only [context]

/-- A stricter policy decides a larger amount at least as restrictively. -/
theorem SpendingPolicy.evaluate_mono {policy policy' : SpendingPolicy}
    (h : policy.Restricts policy') (intent : PaymentIntent) {amount : Decimal}
    (hamount : intent.amount.units ≤ amount.units) (category : Option String) :
    (policy.evaluateWithTrace intent category).decision ≤
      (policy'.evaluateWithTrace { intent with amount } category).decision := by
  rcases policy'.evaluate_cases { intent with amount } category with
    ⟨hdeny, -⟩ | ⟨hlimit', hadmits', hgrades'⟩
  · rw [hdeny]
    exact Decision.le_deny _
  · have hlimit := hlimit'.trans_le h.perTransactionLimit
    rw [PaymentIntent.context_amount] at hadmits'
    have hadmits : policy.Admits (intent.context category) := by
      rw [PaymentIntent.context_self]
      generalize intent.context category = c at hadmits' ⊢
      exact hadmits'.mono h (Limit.finite_units_le hamount)
    rcases policy.evaluate_cases intent category with ⟨-, hnot⟩ | ⟨-, -, hgrades⟩
    · exact absurd ⟨hlimit, hadmits⟩ hnot
    · exact hgrades.mono h (Limit.finite_units_le hamount) hgrades'

/-- A policy for 100 USD a transaction, and a stricter one that also asks for approval above 10 and
knows one country. -/
theorem SpendingPolicy.evaluate_mono_sample :
    let policy : SpendingPolicy := { perTransactionLimit := .finite ⟨100, 0⟩ }
    let policy' : SpendingPolicy :=
      { perTransactionLimit := .finite ⟨900, 1⟩, approvalAbove := some (.finite ⟨10, 0⟩),
        allowedRegions := some ["EU"] }
    let intent : PaymentIntent :=
      { amount := ⟨5, 0⟩, currency := "USD", merchantDomain := "shop.example", region := some "eu" }
    (policy.evaluateWithTrace intent none).decision ≤
      (policy'.evaluateWithTrace { intent with amount := ⟨6, 0⟩ } none).decision := by
  intro policy policy' intent
  have hrestricts : policy.Restricts policy' := by
    refine ⟨by decide +kernel, ?_, ?_, ?_, List.Subset.refl _, ?_, List.Subset.refl _, ?_,
      List.Subset.refl _, ?_, List.Subset.refl _, ?_, List.Subset.refl _, ?_, ?_⟩
    case refine_9 => rintro (h | h) <;> cases h
    all_goals
      intro x hx
      cases hx
  exact evaluate_mono hrestricts intent (by decide +kernel) none

/-! ### Omission -/

/-- The second intent, with the category that goes before its own, leaves out some of the optional
context of the first. -/
structure PaymentIntent.Omits (intent : PaymentIntent) (category : Option String)
    (intent' : PaymentIntent) (category' : Option String) : Prop where
  amount : intent'.amount = intent.amount
  currency : intent'.currency = intent.currency
  merchantDomain : intent'.merchantDomain = intent.merchantDomain ∨ intent'.merchantDomain = ""
  merchantCategory :
    intent'.merchantCategory = intent.merchantCategory ∨ intent'.merchantCategory = none
  category : category' = category ∨ category' = none ∧ intent'.merchantCategory = none
  region : intent'.region = intent.region ∨ intent'.region = none
  instrumentClass :
    intent'.instrumentClass = intent.instrumentClass ∨ intent'.instrumentClass = none
  requestedAt : intent'.requestedAt = intent.requestedAt ∨ intent'.requestedAt = none

/-- The same for the normalised context. -/
structure PolicyContext.Omits (c c' : PolicyContext) : Prop where
  amount : c'.amount = c.amount
  currency : c'.currency = c.currency
  domain : c'.domain = c.domain ∨ c'.domain = ""
  category : c'.category = c.category ∨ c'.category = none
  region : c'.region = c.region ∨ c'.region = none
  instrumentClass : c'.instrumentClass = c.instrumentClass ∨ c'.instrumentClass = none
  requestedAt : c'.requestedAt = c.requestedAt ∨ c'.requestedAt = none

/-- A list of the policy names what is left out: a deny list the value itself, or the allow list
the empty domain and not the one left out. -/
inductive SpendingPolicy.NamesOmitted (policy : SpendingPolicy) (c c' : PolicyContext) : Prop
  | category {x} (hx : c.category = some x) (hnone : c'.category = none)
      (h : x ∈ policy.deniedCategories)
  | region {x} (hx : c.region = some x) (hnone : c'.region = none) (h : x ∈ policy.deniedRegions)
  | instrumentClass {x} (hx : c.instrumentClass = some x) (hnone : c'.instrumentClass = none)
      (h : x ∈ policy.deniedInstrumentClasses)
  | deniedDomain (hempty : c'.domain = "") (h : c.domain ∈ policy.deniedDomains)
  | unlistedDomain {names} (hempty : c'.domain = "") (hnames : policy.allowedDomains = some names)
      (h : c.domain ∉ names) (h' : "" ∈ names)

lemma orNone_lower_empty : orNone (lower (strip "")) = none := by decide +kernel

lemma orNone_upper_empty : orNone (upper (strip "")) = none := by decide +kernel

lemma lower_strip_empty : lower (strip "") = "" := by decide +kernel

lemma PaymentIntent.Omits.context {intent intent' : PaymentIntent}
    {category category' : Option String} (h : intent.Omits category intent' category') :
    (intent.context category).Omits (intent'.context category') := by
  constructor
  · simp only [PaymentIntent.context, h.amount]
  · simp only [PaymentIntent.context, h.currency]
  · simp only [PaymentIntent.context]
    rcases h.merchantDomain with hsame | hempty
    · exact .inl (by rw [hsame])
    · exact .inr (by rw [hempty, lower_strip_empty])
  · simp only [PaymentIntent.context]
    rcases h.category with rfl | ⟨rfl, hnone⟩
    · rcases h.merchantCategory with hsame | hnone
      · exact .inl (by rw [hsame])
      · rw [hnone]
        cases category'.bind orNone with
        | none => exact .inr orNone_lower_empty
        | some x => exact .inl rfl
    · rw [hnone]
      exact .inr orNone_lower_empty
  · simp only [PaymentIntent.context]
    rcases h.region with hsame | hnone
    · exact .inl (by rw [hsame])
    · rw [hnone]
      exact .inr orNone_upper_empty
  · simp only [PaymentIntent.context]
    rcases h.instrumentClass with hsame | hnone
    · exact .inl (by rw [hsame])
    · rw [hnone]
      exact .inr orNone_lower_empty
  · exact h.requestedAt

/-- A missing value passes only where there is no allow list. -/
lemma Passes.of_omitted {value value' : Option String} {denied : List String}
    {allowed : Option (List String)} (homits : value' = value ∨ value' = none)
    (h : Passes value' denied allowed)
    (hnamed : ∀ x, value = some x → value' = none → x ∉ denied) : Passes value denied allowed := by
  rcases homits with rfl | rfl
  · exact h
  · refine ⟨fun x hx => hnamed x hx rfl, fun names hnames => ?_⟩
    obtain ⟨x, hx, -⟩ := h.allowed names hnames
    cases hx

/-- What is admitted without some context is admitted with it, unless a list names it. -/
lemma SpendingPolicy.Admits.of_omitted {policy : SpendingPolicy} {c c' : PolicyContext}
    (homits : c.Omits c') (h : policy.Admits c') (hnamed : ¬policy.NamesOmitted c c') :
    policy.Admits c := by
  have hdomain : Passes (some c.domain) policy.deniedDomains policy.allowedDomains := by
    rcases homits.domain with hsame | hempty
    · rw [← hsame]
      exact h.domain
    · refine ⟨fun x hx hmem => ?_, fun names hnames => ⟨c.domain, rfl, ?_⟩⟩
      · obtain rfl := Option.some.inj hx
        exact hnamed (.deniedDomain hempty hmem)
      · by_contra hnot
        obtain ⟨x, hx, hmem⟩ := h.domain.allowed names hnames
        obtain rfl := Option.some.inj hx
        rw [hempty] at hmem
        exact hnamed (.unlistedDomain hempty hnames hnot hmem)
  have htime {P : Instant → Prop} (ht : ∃ t ∈ c'.requestedAt, P t) :
      ∃ t ∈ c.requestedAt, P t := by
    obtain ⟨t, ht, hP⟩ := ht
    rcases homits.requestedAt with hsame | hnone
    · exact ⟨t, hsame ▸ ht, hP⟩
    · rw [hnone] at ht
      cases ht
  refine ⟨homits.amount ▸ h.amount, homits.currency ▸ h.currency, ?_, hdomain, ?_, ?_, ?_, ?_⟩
  · exact h.category.of_omitted homits.category fun x hx hnone hmem =>
      hnamed (.category hx hnone hmem)
  · exact h.region.of_omitted homits.region fun x hx hnone hmem => hnamed (.region hx hnone hmem)
  · exact h.instrumentClass.of_omitted homits.instrumentClass fun x hx hnone hmem =>
      hnamed (.instrumentClass hx hnone hmem)
  · exact fun days hdays => htime (h.weekday days hdays)
  · exact fun hwindow => htime (h.window hwindow)

/-- What a list names is not admitted. -/
lemma SpendingPolicy.NamesOmitted.not_admits {policy : SpendingPolicy} {c c' : PolicyContext}
    (h : policy.NamesOmitted c c') : ¬policy.Admits c := by
  intro hadmits
  cases h with
  | category hx _ hmem => exact hadmits.category.denied _ hx hmem
  | region hx _ hmem => exact hadmits.region.denied _ hx hmem
  | instrumentClass hx _ hmem => exact hadmits.instrumentClass.denied _ hx hmem
  | deniedDomain _ hmem => exact hadmits.domain.denied _ rfl hmem
  | unlistedDomain _ hnames hnot _ =>
    obtain ⟨x, hx, hmem⟩ := hadmits.domain.allowed _ hnames
    obtain rfl := Option.some.inj hx
    exact hnot hmem

/-- Leaving context out lifts a DENY exactly when what is left is not denied and a list names what
is left out. -/
theorem SpendingPolicy.evaluate_omits (policy : SpendingPolicy) {intent intent' : PaymentIntent}
    {category category' : Option String} (h : intent.Omits category intent' category') :
    ((policy.evaluateWithTrace intent category).decision = .deny ∧
        (policy.evaluateWithTrace intent' category').decision ≠ .deny) ↔
      (policy.NamesOmitted (intent.context category) (intent'.context category') ∧
        (policy.evaluateWithTrace intent' category').decision ≠ .deny) := by
  refine and_congr_left fun hleft => ?_
  rw [ne_eq, deny_iff, not_not] at hleft
  rw [deny_iff]
  constructor
  · intro hdeny
    by_contra hnamed
    exact hdeny ⟨hleft.1, hleft.2.of_omitted h.context hnamed⟩
  · exact fun hnamed hadmits => hnamed.not_admits hadmits.2

/-- A policy that denies gambling. -/
def SpendingPolicy.noGambling : SpendingPolicy :=
  { perTransactionLimit := .finite ⟨100, 0⟩, deniedCategories := ["gambling"] }

def PaymentIntent.gamble (category : Option String) : PaymentIntent :=
  { amount := ⟨5, 0⟩, currency := "USD", merchantDomain := "shop.example",
    merchantCategory := category }

lemma PaymentIntent.gamble_omits : (gamble (some "Gambling")).Omits none (gamble none) none :=
  ⟨rfl, rfl, .inl rfl, .inr rfl, .inl rfl, .inl rfl, .inl rfl, .inl rfl⟩

/-- It is denied by its category. -/
theorem SpendingPolicy.evaluate_omits_sample :
    ((noGambling.evaluateWithTrace (.gamble (some "Gambling")) none).decision = .deny ∧
        (noGambling.evaluateWithTrace (.gamble none) none).decision ≠ .deny) ↔
      (noGambling.NamesOmitted ((PaymentIntent.gamble (some "Gambling")).context none)
          ((PaymentIntent.gamble none).context none) ∧
        (noGambling.evaluateWithTrace (.gamble none) none).decision ≠ .deny) :=
  evaluate_omits noGambling PaymentIntent.gamble_omits

/-- A bet that does not say that it is one is paid without a question. -/
theorem SpendingPolicy.omission_widens :
    (noGambling.evaluateWithTrace (.gamble (some "Gambling")) none).decision = .deny ∧
      (noGambling.evaluateWithTrace (.gamble none) none).decision = .allowAuto := by
  decide +kernel

end AgentPay
