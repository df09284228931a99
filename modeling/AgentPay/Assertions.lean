import AgentPay.PolicyRules
import AgentPay.Api

/-!
# Signed claims of any shape

The evidence step of `create_payment` on the claims as they come out of the token, where every
value is JSON that somebody else has written. `verify_signed_assertion` compares some of them as
they are, reads others with `str`, `Decimal` and `datetime.fromtimestamp`, and takes a token
without a `scope` claim for one that grants PAYMENT.
-/

namespace AgentPay.Assertion

/-! ### Values -/

/-- What `Decimal` reads. -/
inductive DecimalValue where
  | finite (value : Decimal)
  | infinity (negative : Bool)
  | nan
  deriving DecidableEq, Repr

namespace DecimalValue

/-- `0 < value`: comparing a NaN raises. -/
def isPositive : DecimalValue → Except Error Bool
  | .finite value      => .ok (decide (0 < value.units))
  | .infinity negative => .ok (!negative)
  | .nan               => .error .invalidOperation

/-- `amount <= value` -/
def covers (amount : Decimal) : DecimalValue → Except Error Bool
  | .finite value      => .ok (decide (amount.units ≤ value.units))
  | .infinity negative => .ok (!negative)
  | .nan               => .error .invalidOperation

end DecimalValue

/-- The object a token carries. -/
abbrev Claims := List (String × RuleValue)

namespace Claims

/-- `claims.get(key)` -/
def get (claims : Claims) (key : String) : Option RuleValue := (RuleValue.object claims).lookup key

/-- `claims[key]` -/
def item (claims : Claims) (key : String) : Except Error RuleValue :=
  match claims.get key with
  | some value => .ok value
  | none       => .error (.lookupError key)

/-- `claims.get(key) == text` -/
def isText (claims : Claims) (key text : String) : Bool :=
  match claims.get key with
  | some (.text s) => s = text
  | _              => false

end Claims

/-- How Python reads a claim: `str`, the truth of a value, `Decimal` of a text (`none` where it
raises `InvalidOperation`), `datetime.fromtimestamp`, `str.split` and `str.upper`. `expiry` is what
PyJWT takes for the expiry, `int` of the claim. -/
structure Python where
  str : RuleValue → String
  truthy : RuleValue → Bool
  decimal : String → Option DecimalValue
  fromTimestamp : RuleValue → Except Error Time
  expiry : RuleValue → Option Time
  split : String → List String
  upper : String → String
  str_text : ∀ s, str (.text s) = s
  str_eq_payment : ∀ v, str v = "PAYMENT" → v = .text "PAYMENT"
  upper_upper : ∀ s, upper (upper s) = upper s

/-- The environment and the JWT library: `decode` gives the claims of a token that is validly
signed under the configuration, and `none` where PyJWT raises. -/
structure Verifier where
  jwksUrl : Option String
  issuer : Option String
  audience : Option String
  decode : String → Option Claims
  sha256 : String → String

/-- `not (not jwks_url or not issuer or not audience)` -/
def Verifier.configured (jwt : Verifier) : Bool :=
  (jwt.jwksUrl.bind orNone).isSome && (jwt.issuer.bind orNone).isSome &&
    (jwt.audience.bind orNone).isSome

/-! ### The evidence step -/

/-- `authorization.AuthorizationContext` -/
structure AuthorizationContext where
  evidenceId : String
  issuer : String
  agentId : String
  accountId : String
  delegationId : Option String
  scope : List String
  maxAmount : Option DecimalValue
  currency : Option String
  validUntil : Option Time
  digest : Option String
  version : Option String
  deriving DecidableEq, Repr

variable (py : Python)

/-- `AuthorizationContext.validate` for the action PAYMENT. -/
def AuthorizationContext.validate (context : AuthorizationContext) (now : Time)
    (agentId accountId : String) (amount : Decimal) (currency : String) : Except Error Unit := do
  require (context.evidenceId ≠ "" && context.issuer ≠ "") "authorization evidence is incomplete"
  require (context.agentId ≠ "" && context.accountId ≠ "") "authorization identity is incomplete"
  require (context.agentId = agentId && context.accountId = accountId)
    "authorization subject/account mismatch"
  require (!context.scope.isEmpty && decide ("PAYMENT" ∈ context.scope))
    "requested action is outside authorization scope"
  require (decide (0 < amount.units)) "payment amount must be positive"
  match context.maxAmount with
  | none       => throw (.permissionError "authorized maximum amount is required")
  | some limit =>
    require (← limit.isPositive) "authorized maximum amount is required"
    require (← limit.covers amount) "payment exceeds authorized amount"
  require (context.currency.any fun c => c ≠ "") "authorized currency is required"
  require (context.currency.any fun c => py.upper c = py.upper currency)
    "payment currency is outside authorization"
  require context.validUntil.isSome "authorization expiry is required"
  require (context.validUntil.any fun expiry => decide (now < expiry))
    "authorization evidence is expired"

/-- The granted scope, where an absent claim is `["PAYMENT"]`. -/
def grantedScope (claims : Claims) : List String :=
  match claims.get "scope" with
  | none                => ["PAYMENT"]
  | some (.text s)      => py.split s
  | some (.array items) => items.map py.str
  | some _              => []

/-- The context `verify_signed_assertion` returns. -/
def newContext (jwt : Verifier) (claims : Claims) (assertion agentId accountId : String)
    (maxAmount : DecimalValue) (currency : String) : Except Error AuthorizationContext :=
  match claims.get "exp" with
  | none | some .null => .error (.permissionError "ATF evidence expiry is required")
  | some exp => do
    let evidenceId ← claims.item "evidence_id"
    let issuer ← claims.item "iss"
    let validUntil ← py.fromTimestamp exp
    let version ← claims.item "version"
    return {
      evidenceId := py.str evidenceId
      issuer := py.str issuer
      agentId
      accountId
      delegationId := ((claims.get "delegation_id").filter py.truthy).map py.str
      scope := grantedScope py claims
      maxAmount := some maxAmount
      currency := some currency
      validUntil := some validUntil
      digest := some (jwt.sha256 assertion)
      version := some (py.str version) }

/-- The part of `verify_signed_assertion` behind the JWT library. -/
def readClaims (jwt : Verifier) (claims : Claims) (assertion agentId accountId : String)
    (amount : Decimal) (currency : String) : Except Error AuthorizationContext := do
  require (claims.isText "protocol_version" "atf/v1") "unsupported ATF protocol version"
  require (claims.isText "decision" "ALLOW") "ATF authorization decision does not allow payment"
  require (claims.isText "action" "PAYMENT") "ATF authorization action is not PAYMENT"
  require (claims.isText "revocation_status" "VALID")
    "ATF authorization evidence is not currently valid"
  require (claims.isText "subject_agent" agentId) "ATF evidence subject does not match agent"
  require (claims.isText "account_id" accountId)
    "ATF evidence account does not match payment account"
  require (decide ("PAYMENT" ∈ grantedScope py claims))
    "ATF evidence does not grant PAYMENT scope"
  match py.decimal (py.str (← claims.item "max_amount")) with
  | none           => throw (.permissionError "ATF maximum amount is invalid")
  | some maxAmount =>
    require (← maxAmount.isPositive) "ATF maximum amount must be positive"
    let evidenceCurrency := py.upper (py.str (← claims.item "currency"))
    require (evidenceCurrency.length = 3 && evidenceCurrency = py.upper currency)
      "ATF currency does not match payment currency"
    require (decide (0 < amount.units) && (← maxAmount.covers amount))
      "payment exceeds ATF authorized amount"
    newContext py jwt claims assertion agentId accountId maxAmount evidenceCurrency

/-- `verify_signed_assertion` -/
def verifySignedAssertion (jwt : Verifier) (assertion agentId accountId : String)
    (amount : Decimal) (currency : String) : Except Error AuthorizationContext := do
  require jwt.configured "ATF evidence verification is not fully configured"
  require (assertion ≠ "") "signed ATF authorization evidence is required"
  match jwt.decode assertion with
  | none        => throw (.permissionError "invalid signed ATF authorization evidence")
  | some claims => readClaims py jwt claims assertion agentId accountId amount currency

/-- `except (AuthorizationError, ValueError)` -/
def refusing {α : Type} : Except Error α → Except Error α
  | .error (.permissionError message) | .error (.valueError message) =>
    .error (.http 403 message)
  | result => result

/-- The evidence step of `create_payment`. -/
def authorize (jwt : Verifier) (now : Time) (body : EvidenceBody) (agentId accountId : String)
    (amount : Decimal) (currency : String) : Except Error AuthorizationContext :=
  match body.signedAssertion.bind orNone with
  | none => .error (.http 403 "cryptographically signed ATF authorization evidence is required")
  | some assertion =>
    refusing do
      let currency := py.upper currency
      let context ← verifySignedAssertion py jwt assertion agentId accountId amount currency
      context.validate py now agentId accountId amount currency
      requireMatch (some body.evidenceId) (some context.evidenceId)
        "authorization evidence id does not match signed evidence"
      requireMatch body.version context.version
        "authorization evidence version does not match signed evidence"
      requireMatch (some body.issuer) (some context.issuer)
        "authorization evidence issuer does not match signed evidence"
      return context

/-! ### Authority -/

/-- The claims that PyJWT is asked to require. -/
def requiredClaims : List String :=
  ["exp", "iat", "iss", "aud", "sub", "evidence_id", "protocol_version", "decision",
    "subject_agent", "account_id", "action", "max_amount", "currency", "version",
    "revocation_status"]

/-- What PyJWT has checked of the claims it hands out: the required ones are there and not null, and
the issuer is the configured one. -/
structure Claims.Accepted (claims : Claims) (issuer : String) : Prop where
  required : ∀ name ∈ requiredClaims, ∃ value, claims.get name = some value ∧ value ≠ .null
  issuer : claims.get "iss" = some (.text issuer)

/-- A limit above zero. -/
def DecimalValue.Positive : DecimalValue → Prop
  | .finite value      => 0 < value.units
  | .infinity negative => negative = false
  | .nan               => False

/-- A limit that the amount does not exceed. -/
def DecimalValue.Covers (amount : Decimal) : DecimalValue → Prop
  | .finite value      => amount.units ≤ value.units
  | .infinity negative => negative = false
  | .nan               => False

/-- A signed value in the form the request's body is compared with. -/
def Claims.signed (claims : Claims) (key : String) : Option String := (claims.get key).map py.str

/-- What a token says about a payment, its scope and its expiry apart. -/
structure Binds (claims : Claims) (body : EvidenceBody) (agentId accountId : String)
    (amount : Decimal) (currency : String) : Prop where
  protocolVersion : claims.get "protocol_version" = some (.text "atf/v1")
  decision : claims.get "decision" = some (.text "ALLOW")
  action : claims.get "action" = some (.text "PAYMENT")
  revocationStatus : claims.get "revocation_status" = some (.text "VALID")
  subjectAgent : claims.get "subject_agent" = some (.text agentId)
  accountId : claims.get "account_id" = some (.text accountId)
  evidenceId : ∃ id, claims.signed py "evidence_id" = some id ∧ id ≠ ""
  maxAmount : ∃ limit, (claims.signed py "max_amount").bind py.decimal = some limit ∧
    limit.Positive ∧ 0 < amount.units ∧ limit.Covers amount
  currency : ∃ code, claims.signed py "currency" = some code ∧ (py.upper code).length = 3 ∧
    py.upper code = py.upper currency
  bodyEvidenceId : body.evidenceId ≠ "" → claims.signed py "evidence_id" = some body.evidenceId
  bodyVersion : ∀ version, body.version = some version → version ≠ "" →
    claims.signed py "version" = some version
  bodyIssuer : body.issuer ≠ "" → claims.signed py "iss" = some body.issuer

/-- The token itself carries a scope claim, and PAYMENT is a word or an entry of it. -/
def GrantsPayment (claims : Claims) : Prop :=
  (∃ s, claims.get "scope" = some (.text s) ∧ "PAYMENT" ∈ py.split s) ∨
    ∃ items, claims.get "scope" = some (.array items) ∧ .text "PAYMENT" ∈ items

/-- The expiry is in the future: the moment it names, or the one the JWT library reads off it where
`datetime` knows no such moment. -/
def Unexpired (claims : Claims) (now : Time) : Prop :=
  ∃ exp, claims.get "exp" = some exp ∧
    ((∃ moment, py.fromTimestamp exp = .ok moment ∧ now < moment) ∨
      (∃ e, py.fromTimestamp exp = .error e) ∧ ∃ moment, py.expiry exp = some moment ∧ now < moment)

/-- The expiry is a moment that `datetime` knows. -/
def Dated (claims : Claims) : Prop :=
  ∃ exp moment, claims.get "exp" = some exp ∧ py.fromTimestamp exp = .ok moment

/-! ### What is accepted -/

variable {py} {jwt : Verifier} {now : Time} {claims : Claims} {body : EvidenceBody}
  {assertion agentId accountId currency issuer : String} {amount : Decimal}

lemma Claims.isText_iff {key text : String} :
    claims.isText key text = true ↔ claims.get key = some (.text text) := by
  rw [isText]
  cases claims.get key with
  | none => simp
  | some value => cases value <;> simp

lemma Claims.item_eq_ok {key : String} {value : RuleValue} :
    claims.item key = .ok value ↔ claims.get key = some value := by
  rw [item]
  cases claims.get key <;> simp

lemma DecimalValue.isPositive_eq_ok {limit : DecimalValue} :
    limit.isPositive = .ok true ↔ limit.Positive := by
  cases limit <;> simp [isPositive, Positive]

lemma DecimalValue.covers_eq_ok {limit : DecimalValue} :
    limit.covers amount = .ok true ↔ limit.Covers amount := by
  cases limit <;> simp [covers, Covers]

/-- The scope that is read contains PAYMENT when the claim does, or when there is none. -/
lemma mem_grantedScope :
    "PAYMENT" ∈ grantedScope py claims ↔ claims.get "scope" = none ∨ GrantsPayment py claims := by
  rw [grantedScope, GrantsPayment]
  cases claims.get "scope" with
  | none => simp
  | some scope =>
    cases scope with
    | array items =>
      simp only [List.mem_map]
      constructor
      · rintro ⟨v, hv, hpayment⟩
        rw [py.str_eq_payment v hpayment] at hv
        exact .inr (.inr ⟨items, rfl, hv⟩)
      · rintro (hnone | ⟨s, hs, -⟩ | ⟨items', hitems, hmem⟩)
        · cases hnone
        · cases hs
        · obtain rfl : items = items' := by simpa using hitems
          exact ⟨_, hmem, py.str_text _⟩
    | _ => simp

/-- What the returned context is made of. -/
lemma newContext_eq_ok {maxAmount : DecimalValue} {context : AuthorizationContext} :
    newContext py jwt claims assertion agentId accountId maxAmount currency = .ok context ↔
      ∃ id iss exp validUntil version, claims.get "evidence_id" = some id ∧
        claims.get "iss" = some iss ∧ claims.get "exp" = some exp ∧ exp ≠ .null ∧
        py.fromTimestamp exp = .ok validUntil ∧ claims.get "version" = some version ∧
        context =
          { evidenceId := py.str id
            issuer := py.str iss
            agentId
            accountId
            delegationId := ((claims.get "delegation_id").filter py.truthy).map py.str
            scope := grantedScope py claims
            maxAmount := some maxAmount
            currency := some currency
            validUntil := some validUntil
            digest := some (jwt.sha256 assertion)
            version := some (py.str version) } := by
  constructor
  · intro h
    rw [newContext] at h
    split at h
    · cases h
    · cases h
    rename_i exp hnull hexp
    obtain ⟨id, hid, h⟩ := Except.bind_eq_ok.mp h
    obtain ⟨iss, hiss, h⟩ := Except.bind_eq_ok.mp h
    obtain ⟨validUntil, hmoment, h⟩ := Except.bind_eq_ok.mp h
    obtain ⟨version, hversion, h⟩ := Except.bind_eq_ok.mp h
    exact ⟨id, iss, exp, validUntil, version, Claims.item_eq_ok.mp hid, Claims.item_eq_ok.mp hiss,
      hexp, hnull, hmoment, Claims.item_eq_ok.mp hversion, (Except.ok.inj h).symm⟩
  · rintro ⟨id, iss, exp, validUntil, version, hid, hiss, hexp, hnull, hmoment, hversion, rfl⟩
    rw [newContext]
    split
    · rename_i hnone
      rw [hexp] at hnone
      cases hnone
    · rename_i hsome
      exact absurd (Option.some.inj (hexp.symm.trans hsome)) hnull
    rename_i exp' hnull' hexp'
    obtain rfl : exp = exp' := Option.some.inj (hexp.symm.trans hexp')
    exact Except.bind_eq_ok.mpr ⟨id, Claims.item_eq_ok.mpr hid, Except.bind_eq_ok.mpr
      ⟨iss, Claims.item_eq_ok.mpr hiss, Except.bind_eq_ok.mpr ⟨validUntil, hmoment,
        Except.bind_eq_ok.mpr ⟨version, Claims.item_eq_ok.mpr hversion, rfl⟩⟩⟩⟩

/-- What `verify_signed_assertion` asks of the claims before it makes a context of them. -/
structure Allows (py : Python) (claims : Claims) (agentId accountId : String) (amount : Decimal)
    (currency : String) (limit : DecimalValue) (code : String) : Prop where
  protocolVersion : claims.get "protocol_version" = some (.text "atf/v1")
  decision : claims.get "decision" = some (.text "ALLOW")
  action : claims.get "action" = some (.text "PAYMENT")
  revocationStatus : claims.get "revocation_status" = some (.text "VALID")
  subjectAgent : claims.get "subject_agent" = some (.text agentId)
  accountId : claims.get "account_id" = some (.text accountId)
  scope : "PAYMENT" ∈ grantedScope py claims
  maxAmount : (claims.signed py "max_amount").bind py.decimal = some limit
  positive : limit.Positive
  iso : (py.upper code).length = 3 ∧ py.upper code = py.upper currency
  currency : claims.signed py "currency" = some code
  amount : 0 < amount.units ∧ limit.Covers amount

lemma readClaims_eq_ok {context : AuthorizationContext} :
    readClaims py jwt claims assertion agentId accountId amount currency = .ok context ↔
      ∃ limit code, Allows py claims agentId accountId amount currency limit code ∧
        newContext py jwt claims assertion agentId accountId limit (py.upper code) =
          .ok context := by
  simp only [readClaims, Except.bind_eq_ok, require_eq_ok, exists_const, Claims.item_eq_ok,
    Claims.isText_iff, decide_eq_true_eq]
  constructor
  · rintro ⟨hprotocol, hdecision, haction, hrevocation, hagent, haccount, hscope, raw, hraw, h⟩
    split at h
    · cases h
    rename_i limit hlimit
    simp only [Except.bind_eq_ok, require_eq_ok, exists_const, Claims.item_eq_ok,
      Bool.and_eq_true, decide_eq_true_eq] at h
    obtain ⟨_, hpositive, rfl, rawCurrency, hcurrency, hiso, covered, hcovers, ⟨hamount, rfl⟩, h⟩ :=
      h
    refine ⟨limit, py.str rawCurrency, ⟨hprotocol, hdecision, haction, hrevocation, hagent,
      haccount, hscope, ?_, DecimalValue.isPositive_eq_ok.mp hpositive, hiso, ?_, hamount,
      DecimalValue.covers_eq_ok.mp hcovers⟩, h⟩
    · simp [Claims.signed, hraw, hlimit]
    · simp [Claims.signed, hcurrency]
  · rintro ⟨limit, code, hallows, h⟩
    obtain ⟨raw, hraw, hlimit⟩ : ∃ raw, claims.get "max_amount" = some raw ∧
        py.decimal (py.str raw) = some limit := by
      simpa [Claims.signed, Option.bind_eq_some_iff] using hallows.maxAmount
    obtain ⟨rawCurrency, hcurrency, rfl⟩ : ∃ raw, claims.get "currency" = some raw ∧
        py.str raw = code := by
      simpa [Claims.signed] using hallows.currency
    refine ⟨hallows.protocolVersion, hallows.decision, hallows.action, hallows.revocationStatus,
      hallows.subjectAgent, hallows.accountId, hallows.scope, raw, hraw, ?_⟩
    simp only [hlimit, Except.bind_eq_ok, require_eq_ok, exists_const, Claims.item_eq_ok,
      Bool.and_eq_true, decide_eq_true_eq]
    exact ⟨true, DecimalValue.isPositive_eq_ok.mpr hallows.positive, rfl, rawCurrency, hcurrency,
      hallows.iso, true, DecimalValue.covers_eq_ok.mpr hallows.amount.2, ⟨hallows.amount.1, rfl⟩, h⟩

/-- A context that `verify_signed_assertion` made is valid until it expires. -/
lemma validate_eq_ok {limit : DecimalValue} {code : String} {context : AuthorizationContext}
    (hallows : Allows py claims agentId accountId amount currency limit code)
    (hagent : agentId ≠ "") (haccount : accountId ≠ "") (hiss : context.issuer ≠ "")
    (hcontext : context.agentId = agentId ∧ context.accountId = accountId ∧
      context.scope = grantedScope py claims ∧ context.maxAmount = some limit ∧
      context.currency = some (py.upper code)) :
    context.validate py now agentId accountId amount currency = .ok () ↔
      context.evidenceId ≠ "" ∧ ∃ expiry, context.validUntil = some expiry ∧ now < expiry := by
  obtain ⟨hcontextAgent, hcontextAccount, hscope, hlimit, hcurrency⟩ := hcontext
  have hcode : py.upper code ≠ "" := fun hempty => by
    have hlength := hallows.iso.1
    rw [hempty] at hlength
    cases hlength
  have hnonempty : (grantedScope py claims).isEmpty = false := by
    cases hempty : grantedScope py claims with
    | nil => exact absurd hallows.scope (by simp [hempty])
    | cons x xs => rfl
  have hpositive := DecimalValue.isPositive_eq_ok.mpr hallows.positive
  have hcovers := DecimalValue.covers_eq_ok.mpr hallows.amount.2
  have hsame : py.upper (py.upper code) = py.upper currency :=
    (py.upper_upper code).trans hallows.iso.2
  simp only [AuthorizationContext.validate, hcontextAgent, hcontextAccount, hscope, hlimit,
    hcurrency, Except.bind_eq_ok, require_eq_ok, exists_const]
  simp [hagent, haccount, hiss, hnonempty, hallows.scope, hallows.amount.1, hpositive, hcovers,
    hcode, hsame]
  intro hid
  cases context.validUntil <;> simp

lemma refusing_eq_ok {α : Type} {x : Except Error α} {a : α} :
    refusing x = .ok a ↔ x = .ok a := by
  rcases x with e | b
  · cases e <;> simp [refusing]
  · simp [refusing]

/-- A part of the body that is left out or empty matches anything. -/
lemma requireMatch_eq_ok {supplied verified : Option String} {message : String} {u : Unit} :
    requireMatch supplied verified message = .ok u ↔
      ∀ s, supplied = some s → s ≠ "" → verified = some s := by
  rw [requireMatch, require_eq_ok]
  rcases supplied with _ | s
  · simp
  · by_cases hs : s = "" <;> simp [orNone, hs, eq_comm]

/-- The step accepts a token that binds the payment, grants the scope that is read off it, and
expires after now at a moment `datetime` knows. -/
lemma exists_authorize_iff (hconfigured : jwt.configured = true)
    (hissuer : jwt.issuer = some issuer) (hbody : body.signedAssertion = some assertion)
    (hassertion : assertion ≠ "") (hdecode : jwt.decode assertion = some claims)
    (haccepted : claims.Accepted issuer) (hagent : agentId ≠ "") (haccount : accountId ≠ "") :
    (∃ context, authorize py jwt now body agentId accountId amount currency = .ok context) ↔
      Binds py claims body agentId accountId amount currency ∧ "PAYMENT" ∈ grantedScope py claims ∧
        ∃ exp moment, claims.get "exp" = some exp ∧ py.fromTimestamp exp = .ok moment ∧
          now < moment := by
  have hiss : issuer ≠ "" := by
    rintro rfl
    simp [Verifier.configured, hissuer, orNone] at hconfigured
  have hraw : body.signedAssertion.bind orNone = some assertion := by
    simp [hbody, orNone, hassertion]
  simp only [authorize, hraw, refusing_eq_ok, verifySignedAssertion, hdecode, Except.bind_eq_ok,
    require_eq_ok, exists_const, requireMatch_eq_ok]
  constructor
  · rintro ⟨context, verified, ⟨-, -, hverified⟩, _, hvalid, hid, hversion, hmatch, -⟩
    obtain ⟨limit, code, hallows, hnew⟩ := readClaims_eq_ok.mp hverified
    obtain ⟨id, iss, exp, validUntil, version, hid', hiss', hexp, -, hmoment, hversion', rfl⟩ :=
      newContext_eq_ok.mp hnew
    obtain rfl : iss = .text issuer := Option.some.inj (hiss'.symm.trans haccepted.issuer)
    have hstr : py.str (.text issuer) ≠ "" := by rwa [py.str_text]
    obtain ⟨hne, expiry, hexpiry, hfuture⟩ :=
      (validate_eq_ok hallows hagent haccount hstr ⟨rfl, rfl, rfl, rfl, rfl⟩).mp hvalid
    obtain rfl := Option.some.inj hexpiry
    have hcode : py.upper code = py.upper currency := hallows.iso.2.trans (py.upper_upper currency)
    refine ⟨⟨hallows.protocolVersion, hallows.decision, hallows.action, hallows.revocationStatus,
      hallows.subjectAgent, hallows.accountId, ⟨py.str id, ?_, hne⟩,
      ⟨limit, hallows.maxAmount, hallows.positive, hallows.amount.1, hallows.amount.2⟩,
      ⟨code, hallows.currency, hallows.iso.1, hcode⟩, ?_, ?_, ?_⟩, hallows.scope, exp, validUntil,
      hexp, hmoment, hfuture⟩
    · simp [Claims.signed, hid']
    · intro hbodyId
      simpa [Claims.signed, hid'] using hid _ rfl hbodyId
    · intro v hv hvne
      simpa [Claims.signed, hversion'] using hversion v hv hvne
    · intro hbodyIssuer
      simpa [Claims.signed, hiss'] using hmatch _ rfl hbodyIssuer
  · rintro ⟨hbinds, hscope, exp, moment, hexp, hmoment, hfuture⟩
    obtain ⟨limit, hlimit, hpositive, hamount, hcovers⟩ := hbinds.maxAmount
    obtain ⟨code, hcode, hlength, hsame⟩ := hbinds.currency
    obtain ⟨_, hid, hne⟩ := hbinds.evidenceId
    obtain ⟨id, hid', rfl⟩ := Option.map_eq_some_iff.mp hid
    obtain ⟨version, hversion, -⟩ := haccepted.required "version" (by simp [requiredClaims])
    obtain ⟨exp', hexp', hnull⟩ := haccepted.required "exp" (by simp [requiredClaims])
    obtain rfl : exp = exp' := Option.some.inj (hexp.symm.trans hexp')
    have hstr : py.str (.text issuer) ≠ "" := by rwa [py.str_text]
    have hallows : Allows py claims agentId accountId amount (py.upper currency) limit code :=
      { hbinds with
        scope := hscope
        maxAmount := hlimit
        positive := hpositive
        iso := ⟨hlength, hsame.trans (py.upper_upper currency).symm⟩
        currency := hcode
        amount := ⟨hamount, hcovers⟩ }
    obtain ⟨context, hcontext⟩ : ∃ context, context = AuthorizationContext.mk (py.str id)
        (py.str (.text issuer)) agentId accountId
        (((claims.get "delegation_id").filter py.truthy).map py.str) (grantedScope py claims)
        (some limit) (some (py.upper code)) (some moment) (some (jwt.sha256 assertion))
        (some (py.str version)) := ⟨_, rfl⟩
    have hnew : newContext py jwt claims assertion agentId accountId limit (py.upper code) =
        .ok context :=
      newContext_eq_ok.mpr ⟨id, .text issuer, exp, moment, version, hid', haccepted.issuer, hexp,
        hnull, hmoment, hversion, hcontext⟩
    subst hcontext
    refine ⟨_, _, ⟨hconfigured, by simpa using hassertion, readClaims_eq_ok.mpr
      ⟨limit, code, hallows, hnew⟩⟩, (),
      (validate_eq_ok hallows hagent haccount hstr ⟨rfl, rfl, rfl, rfl, rfl⟩).mpr
        ⟨hne, moment, rfl, hfuture⟩, ?_, ?_, ?_, rfl⟩
    · rintro _ ⟨⟩ hbodyId
      simpa [Claims.signed, hid'] using hbinds.bodyEvidenceId hbodyId
    · intro v hv hvne
      simpa [Claims.signed, hversion] using hbinds.bodyVersion v hv hvne
    · rintro _ ⟨⟩ hbodyIssuer
      simpa [Claims.signed, haccepted.issuer] using hbinds.bodyIssuer hbodyIssuer

lemma unexpired_and_dated_iff :
    (∃ exp moment, claims.get "exp" = some exp ∧ py.fromTimestamp exp = .ok moment ∧
      now < moment) ↔ Unexpired py claims now ∧ Dated py claims := by
  constructor
  · rintro ⟨exp, moment, hexp, hmoment, hfuture⟩
    exact ⟨⟨exp, hexp, .inl ⟨moment, hmoment, hfuture⟩⟩, exp, moment, hexp, hmoment⟩
  · rintro ⟨⟨exp, hexp, ⟨moment, hmoment, hfuture⟩ | ⟨⟨e, he⟩, -⟩⟩, exp', moment', hexp', hmoment'⟩
    · exact ⟨exp, moment, hexp, hmoment, hfuture⟩
    · obtain rfl : exp = exp' := Option.some.inj (hexp.symm.trans hexp')
      rw [he] at hmoment'
      cases hmoment'

lemma not_grantsPayment_of_none (h : claims.get "scope" = none) : ¬ GrantsPayment py claims := by
  rintro (⟨s, hs, -⟩ | ⟨items, hitems, -⟩)
  · rw [h] at hs
    cases hs
  · rw [h] at hitems
    cases hitems

/-- Tokens are accepted exactly when they bind the payment, grant PAYMENT themselves and are not
expired, two kinds apart: a token without a scope claim that has all the rest is accepted, and one
that has everything is not when its expiry is no moment `datetime` knows. -/
theorem authorize_exact_iff (py : Python) (jwt : Verifier) (now : Time) {claims : Claims}
    {body : EvidenceBody} {assertion agentId accountId currency issuer : String} {amount : Decimal}
    (hconfigured : jwt.configured = true) (hissuer : jwt.issuer = some issuer)
    (hbody : body.signedAssertion = some assertion) (hassertion : assertion ≠ "")
    (hdecode : jwt.decode assertion = some claims) (haccepted : claims.Accepted issuer)
    (hagent : agentId ≠ "") (haccount : accountId ≠ "") :
    ((∃ context, authorize py jwt now body agentId accountId amount currency = .ok context) ↔
        Binds py claims body agentId accountId amount currency ∧ GrantsPayment py claims ∧
          Unexpired py claims now) ↔
      (claims.get "scope" = none →
        ¬ (Binds py claims body agentId accountId amount currency ∧ Unexpired py claims now ∧
          Dated py claims)) ∧
      (Binds py claims body agentId accountId amount currency ∧ GrantsPayment py claims ∧
        Unexpired py claims now → Dated py claims) := by
  rw [exists_authorize_iff hconfigured hissuer hbody hassertion hdecode haccepted hagent haccount,
    mem_grantedScope, unexpired_and_dated_iff]
  have hnone : claims.get "scope" = none → ¬ GrantsPayment py claims := not_grantsPayment_of_none
  tauto

/-! ### A token -/

/-- No integer is printed as a word. -/
lemma toString_ne_payment (n : ℤ) : toString n ≠ "PAYMENT" := by
  intro h
  have h : Int.repr n = "PAYMENT" := h
  cases n with
  | ofNat m =>
    have h : Nat.repr m = "PAYMENT" := h
    have hmem : 'P' ∈ Nat.toDigits 10 m := by
      have hdigits : (Nat.repr m).toList = Nat.toDigits 10 m := by simp [Nat.repr]
      rw [← hdigits, h]
      decide
    exact absurd (Nat.isDigit_of_mem_toDigits (by decide) (by decide) hmem) (by decide)
  | negSucc m =>
    have h : "-" ++ Nat.repr (m + 1) = "PAYMENT" := h
    have hhead := congrArg (fun s => s.toList.head?) h
    simp at hhead

/-- `str`, with a placeholder for what a list or an object prints. -/
def printed : RuleValue → String
  | .text s              => s
  | .number _ (.ok n)    => toString n
  | .number _ (.error _) => "inf"
  | .null                => "None"
  | .bool true           => "True"
  | .bool false          => "False"
  | .array _             => "[...]"
  | .object _            => "{...}"

lemma printed_text (s : String) : printed (.text s) = s := rfl

lemma printed_eq_payment (v : RuleValue) (h : printed v = "PAYMENT") : v = .text "PAYMENT" := by
  cases v with
  | text s => exact congrArg RuleValue.text h
  | number _ truncated =>
    cases truncated with
    | ok n => exact absurd h (toString_ne_payment n)
    | error e => simp [printed] at h
  | bool b => cases b <;> simp [printed] at h
  | null => simp [printed] at h
  | array _ => simp [printed] at h
  | object _ => simp [printed] at h

/-- Python on the values of the tokens below. -/
def Python.sample : Python where
  str := printed
  truthy
    | .text s => s ≠ ""
    | .null   => false
    | _       => true
  decimal s := if s = "100.00" then some (.finite ⟨10000, 2⟩) else none
  fromTimestamp
    | .number _ (.ok n) => .ok n.toNat
    | _                 => .error (.typeError "an integer is required")
  expiry
    | .number _ (.ok n) => some n.toNat
    | _                 => none
  split := splitWords
  upper := AgentPay.upper
  str_text := printed_text
  str_eq_payment := printed_eq_payment
  upper_upper := AgentPay.upper_upper

/-- Claims for payments of an agent up to 100 USD until time 1000. -/
def Claims.sample (scope : Option RuleValue) : Claims :=
  [("iss", .text "issuer"), ("aud", .text "agent-pay"), ("sub", .text "decision-subject"),
    ("iat", .number "0" (.ok 0)), ("exp", .number "1000" (.ok 1000)),
    ("evidence_id", .text "ev-1"), ("protocol_version", .text "atf/v1"),
    ("decision", .text "ALLOW"),
    ("subject_agent", .text "agent"), ("account_id", .text "account"),
    ("action", .text "PAYMENT"), ("max_amount", .text "100.00"), ("currency", .text "USD"),
    ("version", .text "v1"), ("revocation_status", .text "VALID")] ++
    scope.toList.map fun scope => ("scope", scope)

def Claims.scoped : Claims := sample (some (.array [.text "PAYMENT"]))

def Claims.unscoped : Claims := sample none

/-- A configuration under which the token is validly signed. -/
def Verifier.sample (claims : Claims) : Verifier where
  jwksUrl := some "https://atf.example/jwks.json"
  issuer := some "issuer"
  audience := some "agent-pay"
  decode assertion := if assertion = "assertion" then some claims else none
  sha256 s := s

/-- The body that presents it. -/
def bodySample : EvidenceBody where
  evidenceId := "ev-1"
  issuer := "issuer"
  evidenceType := "ATF"
  delegationId := none
  scope := ["PAYMENT"]
  maxAmount := none
  currency := none
  expiresAt := none
  digest := none
  version := none
  signedAssertion := some "assertion"

lemma Claims.sample_accepted (scope : Option RuleValue) : (sample scope).Accepted "issuer" where
  required := by
    intro name hname
    simp only [requiredClaims, List.mem_cons, List.not_mem_nil, or_false] at hname
    rcases hname with rfl | rfl | rfl | rfl | rfl | rfl | rfl | rfl | rfl | rfl | rfl | rfl | rfl |
      rfl | rfl
    all_goals exact ⟨_, rfl, by simp⟩
  issuer := rfl

theorem authorize_exact_iff_scoped :
    ((∃ context, authorize .sample (.sample .scoped) 0 bodySample "agent" "account" ⟨75, 0⟩ "USD" =
          .ok context) ↔
        Binds .sample .scoped bodySample "agent" "account" ⟨75, 0⟩ "USD" ∧
          GrantsPayment .sample .scoped ∧ Unexpired .sample .scoped 0) ↔
      (Claims.scoped.get "scope" = none →
        ¬ (Binds .sample .scoped bodySample "agent" "account" ⟨75, 0⟩ "USD" ∧
          Unexpired .sample .scoped 0 ∧ Dated .sample .scoped)) ∧
      (Binds .sample .scoped bodySample "agent" "account" ⟨75, 0⟩ "USD" ∧
        GrantsPayment .sample .scoped ∧ Unexpired .sample .scoped 0 → Dated .sample .scoped) :=
  authorize_exact_iff .sample (.sample .scoped) 0 (by decide) rfl rfl (by decide) rfl
    (Claims.sample_accepted _) (by decide) (by decide)

/-- A token without a scope claim is accepted. -/
theorem not_authorize_exact_unscoped :
    Claims.unscoped.Accepted "issuer" ∧
      ¬ ((∃ context, authorize .sample (.sample .unscoped) 0 bodySample "agent" "account" ⟨75, 0⟩
            "USD" = .ok context) ↔
          Binds .sample .unscoped bodySample "agent" "account" ⟨75, 0⟩ "USD" ∧
            GrantsPayment .sample .unscoped ∧ Unexpired .sample .unscoped 0) := by
  refine ⟨Claims.sample_accepted none, fun h => ?_⟩
  have haccepts : (authorize .sample (.sample .unscoped) 0 bodySample "agent" "account" ⟨75, 0⟩
      "USD").isOk = true := by
    decide +kernel
  obtain ⟨context, hcontext⟩ : ∃ context, authorize .sample (.sample .unscoped) 0 bodySample
      "agent" "account" ⟨75, 0⟩ "USD" = .ok context := by
    cases hresult : authorize .sample (.sample .unscoped) 0 bodySample "agent" "account" ⟨75, 0⟩
        "USD" with
    | error e =>
      rw [hresult] at haccepts
      cases haccepts
    | ok context => exact ⟨context, rfl⟩
  exact not_grantsPayment_of_none rfl (h.mp ⟨context, hcontext⟩).2.1

end AgentPay.Assertion
