import AgentPay.Values
import Mathlib.Order.WithBot

/-!
# Spending policy

`SpendingPolicy.evaluate_with_trace` from `policy.py`, with the intent from `domain.py`. Sets of
strings are lists, of which only membership is read; a weekday counts from Monday, and a time of day
is a number of microseconds, without a time zone.
-/

namespace AgentPay

/-- `domain.Decision` -/
inductive Decision where
  | allowAuto
  | allowNotify
  | requireApproval
  | deny
  deriving DecidableEq, Repr

/-- `datetime.time` -/
abbrev TimeOfDay := Fin 86400000000

/-- `requested_at`, as far as a schedule reads it. -/
structure Instant where
  weekday : Fin 7
  timeOfDay : TimeOfDay
  deriving DecidableEq, Repr

/-- `domain.PaymentIntent`: the fields policy evaluation reads. -/
structure PaymentIntent where
  amount : Decimal
  currency : String
  merchantDomain : String
  merchantCategory : Option String := none
  region : Option String := none
  instrumentClass : Option String := none
  requestedAt : Option Instant := none
  deriving DecidableEq, Repr

/-- A `Decimal` that an amount is compared with; a NaN cannot be. -/
inductive Limit where
  | finite (value : Decimal)
  | infinite (negative : Bool)
  deriving DecidableEq, Repr

/-- The value of a limit, in ten-thousandths. -/
def Limit.units : Limit → WithBot (WithTop ℚ)
  | .finite value   => (value.units : WithTop ℚ)
  | .infinite false => (⊤ : WithTop ℚ)
  | .infinite true  => ⊥

lemma Limit.units_finite (d : Decimal) : (Limit.finite d).units = (d.units : WithTop ℚ) := rfl

structure SpendingPolicy where
  perTransactionLimit : Limit
  notifyAbove : Option Limit := none
  approvalAbove : Option Limit := none
  allowedCategories : Option (List String) := none
  deniedCategories : List String := []
  allowedDomains : Option (List String) := none
  deniedDomains : List String := []
  allowedCurrencies : Option (List String) := none
  deniedCurrencies : List String := []
  allowedRegions : Option (List String) := none
  deniedRegions : List String := []
  allowedInstrumentClasses : Option (List String) := none
  deniedInstrumentClasses : List String := []
  allowedWeekdays : Option (List (Fin 7)) := none
  startTime : Option TimeOfDay := none
  endTime : Option TimeOfDay := none
  deriving DecidableEq, Repr

/-- The part of `PolicyDecision` that decides: the decision and the reasons for it. -/
structure PolicyDecision where
  decision : Decision
  reasons : List String
  deriving DecidableEq, Repr

/-- `x or None` for a stripped text. -/
def orNone (s : String) : Option String := if s = "" then none else some s

lemma orNone_eq_some {s v : String} (h : orNone s = some v) : v = s := by
  unfold orNone at h
  split_ifs at h
  exact (Option.some.inj h).symm

/-- `_time_in_window` -/
def timeInWindow (value : TimeOfDay) : Option TimeOfDay → Option TimeOfDay → Bool
  | none,       none     => true
  | none,       some end' => value ≤ end'
  | some start, none     => start ≤ value
  | some start, some end' =>
    if start ≤ end' then start ≤ value && value ≤ end' else start ≤ value || value ≤ end'

/-- `if condition: reasons.append(reason)` -/
def reasonIf (condition : Bool) (reason : String) : List String :=
  if condition then [reason] else []

/-- A deny list and an allow list over one optional dimension; a missing value is never denied by
name and never in an allow list. -/
def listReasons (value : Option String) (denied : List String) (allowed : Option (List String))
    (deniedReason notAllowedReason : String) : List String :=
  reasonIf (value.any (· ∈ denied)) deniedReason ++
    reasonIf (allowed.any fun names => !value.any (· ∈ names)) notAllowedReason

/-- The schedule part of the reasons. -/
def scheduleReasons (policy : SpendingPolicy) (requestedAt : Option Instant) : List String :=
  (match policy.allowedWeekdays, requestedAt with
    | none,      _        => []
    | some _,    none     => ["REQUEST_TIME_REQUIRED"]
    | some days, some at' => reasonIf (!decide (at'.weekday ∈ days)) "WEEKDAY_NOT_ALLOWED") ++
  (if policy.startTime.isSome || policy.endTime.isSome then
    match requestedAt with
    | none     => ["REQUEST_TIME_REQUIRED"]
    | some at' =>
      reasonIf (!timeInWindow at'.timeOfDay policy.startTime policy.endTime)
        "TIME_WINDOW_NOT_ALLOWED"
  else [])

/-- Every reason to deny the intent. -/
def SpendingPolicy.denyReasons (policy : SpendingPolicy) (intent : PaymentIntent)
    (category : Option String) : List String :=
  let currency := upper (strip intent.currency)
  let domain := lower (strip intent.merchantDomain)
  let category := orNone (lower (strip
    (((category.bind orNone).orElse fun _ => intent.merchantCategory).getD "")))
  let region := orNone (upper (strip (intent.region.getD "")))
  let instrumentClass := orNone (lower (strip (intent.instrumentClass.getD "")))
  reasonIf (decide (policy.perTransactionLimit.units < (Limit.finite intent.amount).units))
      "AMOUNT_EXCEEDS_TRANSACTION_LIMIT" ++
    listReasons (some currency) policy.deniedCurrencies policy.allowedCurrencies
      "CURRENCY_DENIED" "CURRENCY_NOT_ALLOWED" ++
    listReasons category policy.deniedCategories policy.allowedCategories
      "CATEGORY_DENIED" "CATEGORY_NOT_ALLOWED" ++
    listReasons (some domain) policy.deniedDomains policy.allowedDomains
      "MERCHANT_DOMAIN_DENIED" "MERCHANT_DOMAIN_NOT_ALLOWED" ++
    listReasons region policy.deniedRegions policy.allowedRegions
      "REGION_DENIED" "REGION_NOT_ALLOWED" ++
    listReasons instrumentClass policy.deniedInstrumentClasses policy.allowedInstrumentClasses
      "INSTRUMENT_CLASS_DENIED" "INSTRUMENT_CLASS_NOT_ALLOWED" ++
    scheduleReasons policy intent.requestedAt

/-- `evaluate_with_trace` -/
def SpendingPolicy.evaluateWithTrace (policy : SpendingPolicy) (intent : PaymentIntent)
    (category : Option String) : PolicyDecision :=
  if policy.perTransactionLimit.units ≤ 0 then ⟨.deny, ["POLICY_LIMIT_NOT_CONFIGURED"]⟩
  else
    match policy.denyReasons intent category with
    | reason :: reasons => ⟨.deny, reason :: reasons⟩
    | [] =>
      if policy.approvalAbove.any fun limit =>
          limit.units < (Limit.finite intent.amount).units then
        ⟨.requireApproval, ["AMOUNT_REQUIRES_APPROVAL"]⟩
      else if policy.notifyAbove.any fun limit =>
          limit.units < (Limit.finite intent.amount).units then
        ⟨.allowNotify, ["AMOUNT_REQUIRES_NOTIFICATION"]⟩
      else ⟨.allowAuto, ["POLICY_ALLOWED"]⟩

/-! ### Evidence -/

/-- An entry of `evaluated_rules`, before it is rendered. -/
inductive EvaluatedRule where
  | limitConfigured
  | amountAtMost (limit : Limit)
  | currencyIn (names : Option (List String))
  deriving DecidableEq, Repr

/-- The rules that `evaluate_with_trace` lists. -/
def SpendingPolicy.evaluatedRules (policy : SpendingPolicy) : List EvaluatedRule :=
  if policy.perTransactionLimit.units ≤ 0 then [.limitConfigured]
  else [.amountAtMost policy.perTransactionLimit, .currencyIn policy.allowedCurrencies]

end AgentPay
