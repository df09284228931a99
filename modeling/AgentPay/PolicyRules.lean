import AgentPay.PolicyOrder
import AgentPay.Text

/-!
# Reading a policy from its rules

`SpendingPolicy.from_rules` takes the rules as they come out of a JSON column and looks at no type:
whatever can be iterated is a list of entries, so a text is the list of its characters. Entries of
three dimensions are stored without being stripped, and what is compared with them is stripped.
-/

namespace AgentPay

/-! ### Rules -/

/-- What `from_rules` can raise. -/
inductive RulesError where
  | attributeError
  | typeError
  | valueError (message : String)
  | overflowError
  | invalidOperation
  deriving DecidableEq, Repr

/-- A JSON value. `printed` is what `str` makes of a number and `truncated` what `int` does, which
raises for an infinity and a NaN. -/
inductive RuleValue where
  | null
  | bool (value : Bool)
  | number (printed : String) (truncated : Except RulesError ℤ)
  | text (value : String)
  | array (items : List RuleValue)
  | object (fields : List (String × RuleValue))

/-- What `Decimal` makes of a text. -/
inductive Number where
  | limit (value : Limit)
  | nan
  deriving DecidableEq, Repr

def Number.limit? : Number → Option Limit
  | .limit value => some value
  | .nan         => none

/-- A `datetime.time`, with or without a zone. -/
structure ZonedTime where
  timeOfDay : TimeOfDay
  zoned : Bool
  deriving DecidableEq, Repr

/-- The conversions of Python that the rules are read with: `str`, and what `Decimal`, `int` and
`time.fromisoformat` make of a text, `none` where they raise. -/
structure Conversions where
  str : RuleValue → String
  decimal : String → Option Number
  int : String → Option ℤ
  time : String → Option ZonedTime
  str_text : ∀ s, str (.text s) = s

/-- What `from_rules` returns. A NaN among the limits and a time with a zone are kept apart, since
to compare them raises; `policy` has no threshold in the place of a NaN. -/
structure RulesPolicy where
  policy : SpendingPolicy
  limitNan : Bool
  notifyNan : Bool
  approvalNan : Bool
  zoned : Bool
  deriving DecidableEq, Repr

/-- `evaluate_with_trace` -/
def RulesPolicy.evaluateWithTrace (p : RulesPolicy) (intent : PaymentIntent)
    (category : Option String) : Except RulesError PolicyDecision :=
  let decided := p.policy.evaluateWithTrace intent category
  if p.limitNan then .error .invalidOperation
  else if p.policy.perTransactionLimit.units ≤ 0 then .ok decided
  -- `requested_at.time()` has no zone
  else if p.zoned && intent.requestedAt.isSome then .error .typeError
  else if decided.decision = .deny then .ok decided
  else if p.approvalNan then .error .invalidOperation
  else if decided.decision = .requireApproval then .ok decided
  else if p.notifyNan then .error .invalidOperation
  else .ok decided

namespace RuleValue

/-- The value under a key of an object. -/
def lookup : RuleValue → String → Option RuleValue
  | .object fields, key => (fields.find? (·.1 = key)).map (·.2)
  | _,              _   => none

/-- `key in value` -/
def contains (key : String) : RuleValue → Except RulesError Bool
  | .object fields => .ok (fields.any (·.1 = key))
  | .array items   => .ok (items.any fun
      | .text s => s = key
      | _       => false)
  | .text s        => .ok (decide (key.toList <:+: s.toList))
  | _              => .error .typeError

/-- `value.get(key)` -/
def get (key : String) : RuleValue → Except RulesError (Option RuleValue)
  | .object fields => .ok ((object fields).lookup key)
  | _              => .error .attributeError

/-- `value[key]` for a key that is there. -/
def item (key : String) (value : RuleValue) : Except RulesError RuleValue :=
  match value.lookup key with
  | some v => .ok v
  | none   => .error .typeError

/-- `value.get(key, [])` -/
def getList (key : String) (value : RuleValue) : Except RulesError RuleValue := do
  let found ← value.get key
  return found.getD (.array [])

/-- `for x in value` -/
def iterate : RuleValue → Except RulesError (List RuleValue)
  | .array items   => .ok items
  | .text s        => .ok (s.toList.map fun c => .text (String.singleton c))
  | .object fields => .ok (fields.map fun field => .text field.1)
  | _              => .error .typeError

def isList : RuleValue → Bool
  | .array _ => true
  | _        => false

end RuleValue

namespace SpendingPolicy

variable (py : Conversions)

/-- `frozenset(read(str(x)) for x in value)` -/
def readSet (read : String → String) (value : RuleValue) : Except RulesError (List String) := do
  let entries ← value.iterate
  return entries.map fun x => read (py.str x)

/-- `frozenset(… for x in section[key]) if key in section else None`, where `access` is the way the
section is asked for the key. -/
def readAllowed (access : String → RuleValue → Except RulesError RuleValue)
    (read : String → String) (key : String) (rules : RuleValue) :
    Except RulesError (Option (List String)) := do
  if ← rules.contains key then
    let value ← access key rules
    let names ← readSet py read value
    return some names
  else return none

/-- `frozenset(… for x in section.get(key, []))` -/
def readDenied (read : String → String) (key : String) (rules : RuleValue) :
    Except RulesError (List String) := do
  let value ← rules.getList key
  readSet py read value

/-- `int(day)` -/
def readDay : RuleValue → Except RulesError ℤ
  | .number _ n => n
  | .bool b     => .ok (if b then 1 else 0)
  | .text s     =>
    match py.int s with
    | some n => .ok n
    | none   => .error (.valueError "invalid literal for int()")
  | _           => .error .typeError

/-- The weekday of a number between 0 and 6. -/
def weekdayOf (day : ℤ) : Except RulesError (Fin 7) :=
  if h : 0 ≤ day ∧ day ≤ 6 then .ok ⟨day.toNat, by omega⟩
  else .error (.valueError "weekday must be between 0 and 6")

/-- `_parse_weekdays` -/
def parseWeekdays : Option RuleValue → Except RulesError (List (Fin 7))
  | some (.array items) => do
    let days ← items.mapM (readDay py)
    days.mapM weekdayOf
  | _ => .error (.valueError "weekdays must be a list")

/-- `_parse_time` -/
def parseTime : Option RuleValue → Except RulesError ZonedTime
  | some (.text s) =>
    match py.time s with
    | some t => .ok t
    | none   => .error (.valueError "Invalid isoformat string")
  | _ => .error (.valueError "time must be HH:MM")

/-- `parse(schedule.get(key)) if key in schedule else None` -/
def readSchedule {α : Type} (parse : Option RuleValue → Except RulesError α) (key : String)
    (schedule : RuleValue) : Except RulesError (Option α) := do
  if ← schedule.contains key then
    let value ← schedule.get key
    let parsed ← parse value
    return some parsed
  else return none

/-- `except (TypeError, ValueError)` -/
def invalidSchedule {α : Type} : Except RulesError α → Except RulesError α
  | .error .typeError | .error (.valueError _) =>
    .error (.valueError "invalid policy schedule")
  | result => result

/-- `Decimal(str(value))` -/
def readDecimal (value : RuleValue) : Except RulesError Number :=
  match py.decimal (py.str value) with
  | some n => .ok n
  | none   => .error .invalidOperation

/-- `_decimal_or_none` -/
def decimalOrNone : Option RuleValue → Except RulesError (Option Number)
  | none | some .null => .ok none
  | some value        => some <$> readDecimal py value

/-- `str(x).strip().lower()` -/
def stripLower (s : String) : String := lower (strip s)

/-- `from_rules` -/
def fromRules (rules : RuleValue) : Except RulesError RulesPolicy := do
  let limits ← rules.get "limits"
  let merchant ← rules.get "merchant"
  let categories ← rules.get "categories"
  let currency ← rules.get "currency"
  let region ← rules.get "region"
  let instrument ← rules.get "instrument"
  let schedule ← rules.get "schedule"
  let (allowedWeekdays, startTime, endTime) ← invalidSchedule do
    let schedule := schedule.getD (.object [])
    let allowedWeekdays ← readSchedule (parseWeekdays py) "allow_weekdays" schedule
    let startTime ← readSchedule (parseTime py) "start_time" schedule
    let endTime ← readSchedule (parseTime py) "end_time" schedule
    return (allowedWeekdays, startTime, endTime)
  let limits := limits.getD (.object [])
  let merchant := merchant.getD (.object [])
  let categories := categories.getD (.object [])
  let currency := currency.getD (.object [])
  let region := region.getD (.object [])
  let instrument := instrument.getD (.object [])
  let perTransaction ← limits.get "per_transaction"
  let limit ← readDecimal py (perTransaction.getD (.text "0"))
  let notify ← limits.get "notify_above"
  let notifyAbove ← decimalOrNone py notify
  let approval ← limits.get "approval_above"
  let approvalAbove ← decimalOrNone py approval
  let allowedCategories ← readAllowed py RuleValue.item stripLower "allow" categories
  let deniedCategories ← readDenied py stripLower "deny" categories
  let allowedDomains ← readAllowed py RuleValue.item stripLower "allow_domains" merchant
  let deniedDomains ← readDenied py stripLower "deny_domains" merchant
  let allowedCurrencies ← readAllowed py RuleValue.getList upper "allow" currency
  let deniedCurrencies ← readDenied py upper "deny" currency
  let allowedRegions ← readAllowed py RuleValue.item upper "allow" region
  let deniedRegions ← readDenied py upper "deny" region
  let allowedInstrumentClasses ← readAllowed py RuleValue.item lower "allow" instrument
  let deniedInstrumentClasses ← readDenied py lower "deny" instrument
  return {
    policy := {
      perTransactionLimit := limit.limit?.getD (.infinite false)
      notifyAbove := notifyAbove.bind Number.limit?
      approvalAbove := approvalAbove.bind Number.limit?
      allowedCategories, deniedCategories, allowedDomains, deniedDomains, allowedCurrencies,
      deniedCurrencies, allowedRegions, deniedRegions, allowedInstrumentClasses,
      deniedInstrumentClasses, allowedWeekdays
      startTime := startTime.map (·.timeOfDay)
      endTime := endTime.map (·.timeOfDay) }
    limitNan := limit = .nan
    notifyNan := notifyAbove = some .nan
    approvalNan := approvalAbove = some .nan
    zoned := startTime.any (·.zoned) || endTime.any (·.zoned) }

end SpendingPolicy

/-! ### Dimensions -/

/-- The dimensions with a deny list and an allow list. -/
inductive Dimension where
  | merchantDomain
  | category
  | currency
  | region
  | instrumentClass
  deriving DecidableEq, Repr

namespace Dimension

/-- The section of the rules. -/
def sectionKey : Dimension → String
  | .merchantDomain  => "merchant"
  | .category        => "categories"
  | .currency        => "currency"
  | .region          => "region"
  | .instrumentClass => "instrument"

def denyKey : Dimension → String
  | .merchantDomain => "deny_domains"
  | _               => "deny"

def allowKey : Dimension → String
  | .merchantDomain => "allow_domains"
  | _               => "allow"

/-- Case folding. -/
def fold : Dimension → String → String
  | .currency | .region => upper
  | _                   => lower

/-- How an entry is stored. -/
def stored : Dimension → String → String
  | .merchantDomain | .category => SpendingPolicy.stripLower
  | d => d.fold

/-- The normalised form of an entry. -/
def normal (d : Dimension) (s : String) : String := d.fold (strip s)

/-- The intent's normalised value. -/
def value (c : PolicyContext) : Dimension → Option String
  | .merchantDomain  => some c.domain
  | .category        => c.category
  | .currency        => some c.currency
  | .region          => c.region
  | .instrumentClass => c.instrumentClass

def denied (policy : SpendingPolicy) : Dimension → List String
  | .merchantDomain  => policy.deniedDomains
  | .category        => policy.deniedCategories
  | .currency        => policy.deniedCurrencies
  | .region          => policy.deniedRegions
  | .instrumentClass => policy.deniedInstrumentClasses

def allowed (policy : SpendingPolicy) : Dimension → Option (List String)
  | .merchantDomain  => policy.allowedDomains
  | .category        => policy.allowedCategories
  | .currency        => policy.allowedCurrencies
  | .region          => policy.allowedRegions
  | .instrumentClass => policy.allowedInstrumentClasses

/-- The reason that a value outside the allow list gives. -/
def notAllowed : Dimension → String
  | .merchantDomain  => "MERCHANT_DOMAIN_NOT_ALLOWED"
  | .category        => "CATEGORY_NOT_ALLOWED"
  | .currency        => "CURRENCY_NOT_ALLOWED"
  | .region          => "REGION_NOT_ALLOWED"
  | .instrumentClass => "INSTRUMENT_CLASS_NOT_ALLOWED"

/-- The configured deny list of a document. -/
def denyValue (rules : RuleValue) (d : Dimension) : Option RuleValue :=
  (rules.lookup d.sectionKey).bind (·.lookup d.denyKey)

/-- The configured allow list of a document. -/
def allowValue (rules : RuleValue) (d : Dimension) : Option RuleValue :=
  (rules.lookup d.sectionKey).bind (·.lookup d.allowKey)

end Dimension

/-! ### What is read -/

lemma RuleValue.get_eq_ok {value : RuleValue} {key : String} {found : Option RuleValue}
    (h : value.get key = .ok found) :
    (∃ fields, value = .object fields) ∧ found = value.lookup key := by
  cases value with
  | object fields => exact ⟨⟨fields, rfl⟩, (Except.ok.inj h).symm⟩
  | _ => cases h

/-- Only what is under the key is read. -/
lemma SpendingPolicy.readDenied_eq_ok {py : Conversions} {read : String → String} {key : String}
    {rules : RuleValue} {names : List String} (h : readDenied py read key rules = .ok names) :
    (∃ fields, rules = .object fields) ∧
      ∃ entries, ((rules.lookup key).getD (.array [])).iterate = .ok entries ∧
        names = entries.map fun x => read (py.str x) := by
  obtain ⟨value, hvalue, h⟩ := Except.bind_eq_ok.mp h
  obtain ⟨found, hfound, hvalue⟩ := Except.bind_eq_ok.mp hvalue
  obtain ⟨hobject, rfl⟩ := RuleValue.get_eq_ok hfound
  obtain rfl := Except.ok.inj hvalue
  obtain ⟨entries, hentries, h⟩ := Except.bind_eq_ok.mp h
  exact ⟨hobject, entries, hentries, (Except.ok.inj h).symm⟩

/-- The two ways to ask an object for a key that is there. -/
def IsAccess (access : String → RuleValue → Except RulesError RuleValue) : Prop :=
  ∀ key fields value, (RuleValue.object fields).lookup key = some value →
    access key (.object fields) = .ok value

lemma RuleValue.isAccess_item : IsAccess item := by
  intro key fields value h
  simp only [item, h]

lemma RuleValue.isAccess_getList : IsAccess getList := by
  intro key fields value h
  simp only [getList, get, h]
  rfl

lemma RuleValue.contains_object (fields : List (String × RuleValue)) (key : String) :
    contains key (.object fields) = .ok ((object fields).lookup key).isSome := by
  have hany : (fields.any (·.1 = key)) = (fields.find? (·.1 = key)).isSome := by
    rw [Bool.eq_iff_iff, List.find?_isSome, List.any_eq_true]
  rw [contains, lookup, hany, Option.isSome_map]

lemma SpendingPolicy.readAllowed_eq_ok {py : Conversions}
    {access : String → RuleValue → Except RulesError RuleValue} (haccess : IsAccess access)
    {read : String → String} {key : String} {fields : List (String × RuleValue)}
    {names : Option (List String)}
    (h : readAllowed py access read key (.object fields) = .ok names) :
    ((RuleValue.object fields).lookup key = none ∧ names = none) ∨
      ∃ value entries, (RuleValue.object fields).lookup key = some value ∧
        value.iterate = .ok entries ∧ names = some (entries.map fun x => read (py.str x)) := by
  rw [readAllowed, RuleValue.contains_object] at h
  cases hlookup : (RuleValue.object fields).lookup key with
  | none =>
    rw [hlookup] at h
    exact .inl ⟨rfl, (Except.ok.inj h).symm⟩
  | some value =>
    rw [hlookup] at h
    obtain ⟨value', hvalue, h⟩ := Except.bind_eq_ok.mp (show (access key (.object fields) >>= _) =
      .ok names from h)
    rw [haccess key fields value hlookup] at hvalue
    obtain rfl := Except.ok.inj hvalue
    obtain ⟨names', hnames, h⟩ := Except.bind_eq_ok.mp h
    obtain ⟨entries, hentries, hnames⟩ := Except.bind_eq_ok.mp hnames
    obtain rfl := Except.ok.inj hnames
    exact .inr ⟨value, entries, rfl, hentries, (Except.ok.inj h).symm⟩

/-- What a policy has of a dimension is what its rules have under the two keys. -/
structure Dimension.ReadFrom (py : Conversions) (rules : RuleValue) (policy : SpendingPolicy)
    (d : Dimension) : Prop where
  denied : ∃ entries, ((d.denyValue rules).getD (.array [])).iterate = .ok entries ∧
    d.denied policy = entries.map fun x => d.stored (py.str x)
  allowed : (d.allowValue rules = none ∧ d.allowed policy = none) ∨
    ∃ value entries, d.allowValue rules = some value ∧ value.iterate = .ok entries ∧
      d.allowed policy = some (entries.map fun x => d.stored (py.str x))

/-- A section that is not there has no keys. -/
lemma RuleValue.lookup_getD (found : Option RuleValue) (key : String) :
    (found.getD (.object [])).lookup key = found.bind (·.lookup key) := by
  cases found <;> rfl

lemma Dimension.ReadFrom.of_section {py : Conversions} {rules : RuleValue}
    {policy : SpendingPolicy} {d : Dimension}
    {access : String → RuleValue → Except RulesError RuleValue} (haccess : IsAccess access)
    (hallowed : SpendingPolicy.readAllowed py access d.stored d.allowKey
      ((rules.lookup d.sectionKey).getD (.object [])) = .ok (d.allowed policy))
    (hdenied : SpendingPolicy.readDenied py d.stored d.denyKey
      ((rules.lookup d.sectionKey).getD (.object [])) = .ok (d.denied policy)) :
    d.ReadFrom py rules policy := by
  obtain ⟨⟨fields, hobject⟩, entries, hentries, hnames⟩ :=
    SpendingPolicy.readDenied_eq_ok hdenied
  rw [RuleValue.lookup_getD] at hentries
  have hlookup : (RuleValue.object fields).lookup d.allowKey = d.allowValue rules := by
    rw [← hobject, RuleValue.lookup_getD]
    rfl
  rw [hobject] at hallowed
  have hcases := SpendingPolicy.readAllowed_eq_ok haccess hallowed
  rw [hlookup] at hcases
  exact ⟨⟨entries, hentries, hnames⟩, hcases⟩

/-- `from_rules` reads every dimension from its section. -/
lemma SpendingPolicy.fromRules_readFrom {py : Conversions} {rules : RuleValue}
    {p : RulesPolicy} (h : fromRules py rules = .ok p) (d : Dimension) :
    d.ReadFrom py rules p.policy := by
  obtain ⟨limits, -, h⟩ := Except.bind_eq_ok.mp h
  obtain ⟨merchant, hmerchant, h⟩ := Except.bind_eq_ok.mp h
  obtain ⟨categories, hcategories, h⟩ := Except.bind_eq_ok.mp h
  obtain ⟨currency, hcurrency, h⟩ := Except.bind_eq_ok.mp h
  obtain ⟨region, hregion, h⟩ := Except.bind_eq_ok.mp h
  obtain ⟨instrument, hinstrument, h⟩ := Except.bind_eq_ok.mp h
  obtain ⟨schedule, -, h⟩ := Except.bind_eq_ok.mp h
  obtain ⟨⟨allowedWeekdays, startTime, endTime⟩, -, h⟩ := Except.bind_eq_ok.mp h
  obtain ⟨perTransaction, -, h⟩ := Except.bind_eq_ok.mp h
  obtain ⟨limit, -, h⟩ := Except.bind_eq_ok.mp h
  obtain ⟨notify, -, h⟩ := Except.bind_eq_ok.mp h
  obtain ⟨notifyAbove, -, h⟩ := Except.bind_eq_ok.mp h
  obtain ⟨approval, -, h⟩ := Except.bind_eq_ok.mp h
  obtain ⟨approvalAbove, -, h⟩ := Except.bind_eq_ok.mp h
  obtain ⟨allowedCategories, hallowedCategories, h⟩ := Except.bind_eq_ok.mp h
  obtain ⟨deniedCategories, hdeniedCategories, h⟩ := Except.bind_eq_ok.mp h
  obtain ⟨allowedDomains, hallowedDomains, h⟩ := Except.bind_eq_ok.mp h
  obtain ⟨deniedDomains, hdeniedDomains, h⟩ := Except.bind_eq_ok.mp h
  obtain ⟨allowedCurrencies, hallowedCurrencies, h⟩ := Except.bind_eq_ok.mp h
  obtain ⟨deniedCurrencies, hdeniedCurrencies, h⟩ := Except.bind_eq_ok.mp h
  obtain ⟨allowedRegions, hallowedRegions, h⟩ := Except.bind_eq_ok.mp h
  obtain ⟨deniedRegions, hdeniedRegions, h⟩ := Except.bind_eq_ok.mp h
  obtain ⟨allowedInstrumentClasses, hallowedClasses, h⟩ := Except.bind_eq_ok.mp h
  obtain ⟨deniedInstrumentClasses, hdeniedClasses, h⟩ := Except.bind_eq_ok.mp h
  obtain rfl := Except.ok.inj h
  cases d with
  | merchantDomain =>
    rw [(RuleValue.get_eq_ok hmerchant).2] at hallowedDomains hdeniedDomains
    exact .of_section RuleValue.isAccess_item hallowedDomains hdeniedDomains
  | category =>
    rw [(RuleValue.get_eq_ok hcategories).2] at hallowedCategories hdeniedCategories
    exact .of_section RuleValue.isAccess_item hallowedCategories hdeniedCategories
  | currency =>
    rw [(RuleValue.get_eq_ok hcurrency).2] at hallowedCurrencies hdeniedCurrencies
    exact .of_section RuleValue.isAccess_getList hallowedCurrencies hdeniedCurrencies
  | region =>
    rw [(RuleValue.get_eq_ok hregion).2] at hallowedRegions hdeniedRegions
    exact .of_section RuleValue.isAccess_item hallowedRegions hdeniedRegions
  | instrumentClass =>
    rw [(RuleValue.get_eq_ok hinstrument).2] at hallowedClasses hdeniedClasses
    exact .of_section RuleValue.isAccess_item hallowedClasses hdeniedClasses

/-! ### Values and entries -/

namespace Dimension

lemma fold_eq (d : Dimension) : d.fold = upper ∨ d.fold = lower := by
  cases d <;> first | exact .inl rfl | exact .inr rfl

lemma strip_fold (d : Dimension) (s : String) : strip (d.fold s) = d.fold (strip s) := by
  rcases d.fold_eq with h | h
  · rw [h, strip_upper]
  · rw [h, strip_lower]

/-- The intent's value is stripped and folded. -/
lemma value_normal {d : Dimension} {intent : PaymentIntent} {category : Option String} {v : String}
    (h : d.value (intent.context category) = some v) : ∃ s, v = d.normal s := by
  cases d <;> simp only [value, PaymentIntent.context] at h <;> simp only [normal, fold]
  case merchantDomain => exact ⟨intent.merchantDomain, (Option.some.inj h).symm⟩
  case currency => exact ⟨intent.currency, (Option.some.inj h).symm⟩
  case category | region | instrumentClass =>
    have hv := orNone_eq_some h
    exact ⟨_, hv⟩

/-- A stored entry that equals a value is normalised. -/
lemma stored_eq_normal {d : Dimension} {intent : PaymentIntent} {category : Option String}
    {s : String} (h : d.value (intent.context category) = some (d.stored s)) :
    d.stored s = d.normal s := by
  obtain ⟨s₀, hs₀⟩ := value_normal h
  have hfold (hstored : d.stored s = d.fold s) : d.stored s = d.normal s := by
    have hstripped : strip (d.stored s) = d.stored s := by
      rw [hs₀, normal, strip_fold, strip_strip]
    rw [normal, ← strip_fold, ← hstored, hstripped]
  cases d with
  | merchantDomain | category => rfl
  | currency | region | instrumentClass => exact hfold rfl

end Dimension

/-! ### Enforcement -/

/-- The decision an intent gets from a policy. -/
def RulesPolicy.decides (p : RulesPolicy) (intent : PaymentIntent) (category : Option String) :
    Except RulesError Decision :=
  (p.evaluateWithTrace intent category).map (·.decision)

/-- The configured lists of a dimension are enforced on an intent: they are lists, an entry of the
deny list denies the value it is the normalised form of, and an allow list lets through exactly the
values that an entry is. -/
structure Dimension.Enforced (py : Conversions) (rules : RuleValue) (p : RulesPolicy)
    (intent : PaymentIntent) (category : Option String) (d : Dimension) : Prop where
  denyList : ∀ v ∈ d.denyValue rules, v.isList = true
  allowList : ∀ v ∈ d.allowValue rules, v.isList = true
  denies : ∀ entries, d.denyValue rules = some (.array entries) → ∀ x ∈ entries,
    d.value (intent.context category) = some (d.normal (py.str x)) →
      p.decides intent category = .ok .deny
  allows : ∀ entries, d.allowValue rules = some (.array entries) →
    (d.notAllowed ∉ p.policy.denyReasons intent category ↔
      ∃ x ∈ entries, d.value (intent.context category) = some (d.normal (py.str x)))

/-- The value is the normalised form of an entry. -/
def Dimension.Names (py : Conversions) (entries : List RuleValue) (c : PolicyContext)
    (d : Dimension) : Prop :=
  ∃ x ∈ entries, d.value c = some (d.normal (py.str x))

/-- The value is the normalised form of an entry and no entry as it is stored. -/
def Dimension.Misses (py : Conversions) (entries : List RuleValue) (c : PolicyContext)
    (d : Dimension) : Prop :=
  d.Names py entries c ∧ ∀ x ∈ entries, d.value c ≠ some (d.stored (py.str x))

/-- No comparison raises on the way to the reasons: the limit is no NaN, and a time with a zone is
compared with no time. -/
def RulesPolicy.Comparable (p : RulesPolicy) (requestedAt : Option Instant) : Prop :=
  p.limitNan = false ∧ (0 < p.policy.perTransactionLimit.units → p.zoned = true →
    requestedAt = none)

/-- What `from_rules` and `evaluate_with_trace` have to agree on: the lists are lists, an entry of a
deny list meets no comparison that raises, and no entry is missed, unless the intent is denied for
the limit, the schedule or another entry. -/
structure Dimension.Agrees (py : Conversions) (rules : RuleValue) (p : RulesPolicy)
    (c : PolicyContext) (d : Dimension) : Prop where
  denyList : ∀ v ∈ d.denyValue rules, v.isList = true
  allowList : ∀ v ∈ d.allowValue rules, v.isList = true
  compares : ∀ entries, d.denyValue rules = some (.array entries) → d.Names py entries c →
    p.Comparable c.requestedAt
  denies : ∀ entries, d.denyValue rules = some (.array entries) → d.Misses py entries c →
    p.policy.perTransactionLimit.units ≤ 0 ∨ ¬p.policy.Admits c
  allows : ∀ entries, d.allowValue rules = some (.array entries) → ¬d.Misses py entries c

lemma mem_reasonIf {condition : Bool} {reason r : String} :
    r ∈ reasonIf condition reason ↔ condition = true ∧ r = reason := by
  cases condition <;> simp [reasonIf]

lemma any_not_listed {value : Option String} {allowed : Option (List String)} :
    (allowed.any fun names => !value.any (· ∈ names)) = true ↔
      ∃ names ∈ allowed, ¬∃ v ∈ value, v ∈ names := by
  cases allowed <;> cases value <;> simp

/-- The reason stands for a value outside the allow list. -/
lemma Dimension.notAllowed_mem {policy : SpendingPolicy} {c : PolicyContext} (d : Dimension) :
    d.notAllowed ∈ policy.contextReasons c ↔
      ∃ names ∈ d.allowed policy, ¬∃ v ∈ d.value c, v ∈ names := by
  have hschedule : ∀ r ∈ scheduleReasons policy c.requestedAt,
      r ∈ ["REQUEST_TIME_REQUIRED", "WEEKDAY_NOT_ALLOWED", "TIME_WINDOW_NOT_ALLOWED"] := by
    intro r hr
    unfold scheduleReasons at hr
    rcases List.mem_append.mp hr with hr | hr
    · split at hr
      · cases hr
      · simp_all
      · simp_all [mem_reasonIf]
    · split_ifs at hr
      · split at hr
        · simp_all
        · simp_all [mem_reasonIf]
      · cases hr
  have hnot : d.notAllowed ∉ scheduleReasons policy c.requestedAt := by
    intro hmem
    have hmem := hschedule _ hmem
    revert hmem
    cases d <;> decide
  cases d <;> simp only [notAllowed] at hnot <;>
    simp only [SpendingPolicy.contextReasons, listReasons, mem_reasonIf, notAllowed, allowed, value,
      List.mem_append, any_not_listed, hnot, String.reduceEq, and_false, and_true, false_or,
      or_false]

/-- A value that a deny list contains is not admitted. -/
lemma Dimension.not_admits {policy : SpendingPolicy} {c : PolicyContext} {d : Dimension}
    {v : String} (hv : d.value c = some v) (hmem : v ∈ d.denied policy) : ¬policy.Admits c := by
  intro h
  cases d with
  | merchantDomain => exact h.domain.denied v hv hmem
  | category => exact h.category.denied v hv hmem
  | currency => exact h.currency.denied v hv hmem
  | region => exact h.region.denied v hv hmem
  | instrumentClass => exact h.instrumentClass.denied v hv hmem

section Enforcement

variable {py : Conversions} {rules : RuleValue} {p : RulesPolicy} {policy : SpendingPolicy}
  {d : Dimension} {intent : PaymentIntent} {category : Option String} {entries : List RuleValue}

/-- A DENY is a decision on what is not admitted, where no comparison raises before it. -/
lemma RulesPolicy.decides_deny : p.decides intent category = .ok .deny ↔
    p.Comparable intent.requestedAt ∧
      (p.policy.perTransactionLimit.units ≤ 0 ∨ ¬p.policy.Admits (intent.context category)) := by
  have hdeny : (p.policy.evaluateWithTrace intent category).decision = .deny ↔
      p.policy.perTransactionLimit.units ≤ 0 ∨ ¬p.policy.Admits (intent.context category) := by
    rw [SpendingPolicy.deny_iff, not_and_or, not_lt]
  rw [← hdeny, decides, evaluateWithTrace, Comparable]
  split_ifs with hnan hlimit hzoned hdecided
  · simp [hnan, Except.map]
  · simp [hnan, not_lt.mpr hlimit, Except.map]
  · simp only [Bool.and_eq_true] at hzoned
    have hsome : intent.requestedAt ≠ none := Option.isSome_iff_ne_none.mp hzoned.2
    simp [hnan, not_le.mp hlimit, hzoned.1, hsome, Except.map]
  · simp only [Bool.and_eq_true, not_and, Bool.not_eq_true, Option.isSome_eq_false_iff,
      Option.isNone_iff_eq_none] at hzoned
    simpa [hnan, not_le.mp hlimit, hdecided, Except.map] using hzoned
  all_goals simp [hdecided, Except.map]

/-- A deny list is enforced when what it names is compared and what it misses is denied anyway. -/
lemma Dimension.ReadFrom.denies_iff (h : d.ReadFrom py rules p.policy)
    (hdeny : d.denyValue rules = some (.array entries)) :
    (∀ x ∈ entries, d.value (intent.context category) = some (d.normal (py.str x)) →
        p.decides intent category = .ok .deny) ↔
      (d.Names py entries (intent.context category) → p.Comparable intent.requestedAt) ∧
      (d.Misses py entries (intent.context category) →
        p.policy.perTransactionLimit.units ≤ 0 ∨
          ¬p.policy.Admits (intent.context category)) := by
  obtain ⟨entries', hentries, hdenied⟩ := h.denied
  rw [hdeny] at hentries
  obtain rfl := Except.ok.inj hentries
  constructor
  · intro hnamed
    constructor
    · rintro ⟨x, hx, hvalue⟩
      exact (RulesPolicy.decides_deny.mp (hnamed x hx hvalue)).1
    · rintro ⟨⟨x, hx, hvalue⟩, -⟩
      exact (RulesPolicy.decides_deny.mp (hnamed x hx hvalue)).2
  · rintro ⟨hcompares, hmisses⟩ x hx hvalue
    refine RulesPolicy.decides_deny.mpr ⟨hcompares ⟨x, hx, hvalue⟩, ?_⟩
    by_cases hstored :
        ∃ y ∈ entries, d.value (intent.context category) = some (d.stored (py.str y))
    · obtain ⟨y, hy, hstored⟩ := hstored
      refine .inr (Dimension.not_admits hstored ?_)
      rw [hdenied]
      exact List.mem_map.mpr ⟨y, hy, rfl⟩
    · exact hmisses ⟨⟨x, hx, hvalue⟩, fun y hy heq => hstored ⟨y, hy, heq⟩⟩

/-- An allow list is enforced when it misses nothing. -/
lemma Dimension.ReadFrom.allows_iff (h : d.ReadFrom py rules policy)
    (hallow : d.allowValue rules = some (.array entries)) :
    (d.notAllowed ∉ policy.denyReasons intent category ↔
        ∃ x ∈ entries, d.value (intent.context category) = some (d.normal (py.str x))) ↔
      ¬d.Misses py entries (intent.context category) := by
  rcases h.allowed with ⟨hnone, -⟩ | ⟨value, entries', hvalue, hentries, hallowed⟩
  · cases hnone.symm.trans hallow
  obtain rfl := Option.some.inj (hvalue.symm.trans hallow)
  obtain rfl := Except.ok.inj hentries
  have hpasses : d.notAllowed ∉ policy.denyReasons intent category ↔
      ∃ y ∈ entries, d.value (intent.context category) = some (d.stored (py.str y)) := by
    rw [SpendingPolicy.denyReasons_eq, d.notAllowed_mem, hallowed]
    constructor
    · intro hnot
      by_contra hstored
      refine hnot ⟨_, rfl, ?_⟩
      rintro ⟨v, hv, hmem⟩
      obtain ⟨y, hy, rfl⟩ := List.mem_map.mp hmem
      exact hstored ⟨y, hy, hv⟩
    · rintro ⟨y, hy, hstored⟩ ⟨names, hnames, hnot⟩
      obtain rfl := Option.some.inj hnames
      exact hnot ⟨_, hstored, List.mem_map.mpr ⟨y, hy, rfl⟩⟩
  rw [hpasses]
  constructor
  · rintro hiff ⟨hnamed, hmissed⟩
    obtain ⟨y, hy, hstored⟩ := hiff.mpr hnamed
    exact hmissed y hy hstored
  · intro hmisses
    constructor
    · rintro ⟨y, hy, hstored⟩
      exact ⟨y, hy, by rw [← Dimension.stored_eq_normal hstored, hstored]⟩
    · intro hnamed
      by_contra hstored
      exact hmisses ⟨hnamed, fun y hy heq => hstored ⟨y, hy, heq⟩⟩

/-- The lists of a document are enforced on an intent exactly when they are lists, no comparison
raises before a deny list counts, and no entry is missed that nothing else makes up for. -/
theorem SpendingPolicy.fromRules_enforces (h : fromRules py rules = .ok p)
    (intent : PaymentIntent) (category : Option String) :
    (∀ d : Dimension, d.Enforced py rules p intent category) ↔
      ∀ d : Dimension, d.Agrees py rules p (intent.context category) := by
  constructor
  · intro henforced d
    have hread := fromRules_readFrom h d
    obtain ⟨hdeny, hallow, hdenies, hallows⟩ := henforced d
    have hnamed := fun entries hentries => (hread.denies_iff hentries).mp
      (hdenies entries hentries)
    exact ⟨hdeny, hallow, fun entries hentries => (hnamed entries hentries).1,
      fun entries hentries => (hnamed entries hentries).2,
      fun entries hentries => (hread.allows_iff hentries).mp (hallows entries hentries)⟩
  · intro hagrees d
    have hread := fromRules_readFrom h d
    obtain ⟨hdeny, hallow, hcompares, hdenies, hallows⟩ := hagrees d
    exact ⟨hdeny, hallow, fun entries hentries => (hread.denies_iff hentries).mpr
      ⟨hcompares entries hentries, hdenies entries hentries⟩,
      fun entries hentries => (hread.allows_iff hentries).mpr (hallows entries hentries)⟩

end Enforcement

/-- Conversions that know the texts below. -/
def Conversions.sample : Conversions where
  str
    | .text s           => s
    | .number printed _ => printed
    | .bool b           => if b then "True" else "False"
    | _                 => "None"
  decimal s :=
    if s = "100" then some (.limit (.finite ⟨100, 0⟩))
    else if s = "0" then some (.limit (.finite ⟨0, 0⟩))
    else none
  int _ := none
  time _ := none
  str_text _ := rfl

/-- 100 USD a transaction, and one more section. -/
def RuleValue.sample (section' : String) (key : String) (value : RuleValue) : RuleValue :=
  .object [("limits", .object [("per_transaction", .text "100")]),
    (section', .object [(key, value)])]

/-- 5 USD to a region. -/
def PaymentIntent.to (region : String) : PaymentIntent :=
  { amount := ⟨5, 0⟩, currency := "USD", merchantDomain := "shop.example", region := some region }

/-- A deny list without spaces is enforced. -/
theorem SpendingPolicy.fromRules_enforces_sample :
    ∃ p, fromRules .sample (.sample "region" "deny" (.array [.text "kp"])) = .ok p ∧
      ((∀ d : Dimension, d.Enforced .sample (.sample "region" "deny" (.array [.text "kp"])) p
          (.to "KP") none) ↔
        ∀ d : Dimension, d.Agrees .sample (.sample "region" "deny" (.array [.text "kp"])) p
          ((PaymentIntent.to "KP").context none)) := by
  have hok : (fromRules .sample (.sample "region" "deny" (.array [.text "kp"]))).isOk = true := by
    decide +kernel
  cases h : fromRules .sample (.sample "region" "deny" (.array [.text "kp"])) with
  | error e =>
    rw [h] at hok
    cases hok
  | ok p => exact ⟨p, rfl, fromRules_enforces h (.to "KP") none⟩

/-- A region that is denied with a space around it is paid, and a text is read as a list. -/
theorem SpendingPolicy.fromRules_unenforced :
    (∃ p, fromRules .sample (.sample "region" "deny" (.array [.text " KP"])) = .ok p ∧
      ¬ Dimension.Enforced .sample (.sample "region" "deny" (.array [.text " KP"])) p
        (.to "KP") none .region) ∧
    ∃ p, fromRules .sample (.sample "categories" "deny" (.text "gambling")) = .ok p ∧
      ¬ Dimension.Enforced .sample (.sample "categories" "deny" (.text "gambling")) p
        (.to "KP") none .category := by
  constructor
  · have hdecides : (fromRules .sample (.sample "region" "deny" (.array [.text " KP"]))).map
        (·.decides (.to "KP") none) = .ok (.ok .allowAuto) := by
      decide +kernel
    cases h : fromRules .sample (.sample "region" "deny" (.array [.text " KP"])) with
    | error e =>
      rw [h] at hdecides
      cases hdecides
    | ok p =>
      rw [h] at hdecides
      refine ⟨p, rfl, fun henforced => ?_⟩
      have hdeny := henforced.denies [.text " KP"] rfl (.text " KP") List.mem_cons_self
        (by decide +kernel)
      cases hdeny.symm.trans (Except.ok.inj hdecides)
  · have hok :
        (fromRules .sample (.sample "categories" "deny" (.text "gambling"))).isOk = true := by
      decide +kernel
    cases h : fromRules .sample (.sample "categories" "deny" (.text "gambling")) with
    | error e =>
      rw [h] at hok
      cases hok
    | ok p =>
      exact ⟨p, rfl, fun henforced => absurd (henforced.denyList _ rfl) (by decide)⟩

end AgentPay
