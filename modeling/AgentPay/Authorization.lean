import AgentPay.Schema

/-!
# Authorization evidence

`atf_evidence.py` and `authorization.py`. JWT verification, hashing and the process environment
are parameters of the development.
-/

namespace AgentPay

/-- The `scope` claim. -/
inductive ScopeClaim where
  | absent
  | text (value : String)
  | items (values : List String)
  | other
  deriving DecidableEq, Repr

/-- The claims of a verified assertion; `maxAmount` is `none` where `Decimal(str(…))` raises. -/
structure AssertionClaims where
  evidenceId : String
  iss : String
  protocolVersion : String
  decision : String
  action : String
  revocationStatus : String
  subjectAgent : String
  accountId : String
  delegationId : Option String
  scope : ScopeClaim
  maxAmount : Option Decimal
  currency : String
  exp : Time
  version : String
  deriving DecidableEq, Repr

/-- `auth.Principal`: the fields `require_agent` reads. -/
structure Principal where
  agentId : String
  accountId : String
  scopes : List String
  deriving DecidableEq, Repr

/-- A JSON value, the keys of an object in the order they are written. -/
inductive Json where
  | null
  | text (value : String)
  | number (value : ℤ)
  | array (items : List Json)
  | object (fields : List (String × Json))

/-- A text or `null`. -/
def Json.ofText? : Option String → Json
  | none   => .null
  | some s => .text s

/-- What the code takes from its libraries and its environment. `decodeAssertion` is `jwt.decode`
under the configured keys, issuer and audience at a given time, `none` where it raises;
`digest` is the SHA-256 of `json.dumps`; `locksOuterJoins` says whether the server takes
`FOR UPDATE` on the nullable side of an outer join, which PostgreSQL refuses. -/
structure Env where
  assertionConfigured : Bool
  decodeAssertion : String → Time → Option AssertionClaims
  sha256 : String → String
  digest : Json → String
  resolveBearer : String → Except Error Principal
  resolveApprovalBearer : Option String → Except Error String
  replayWindow : Option ℤ
  locksOuterJoins : Bool

/-- `str.split` -/
def splitWords (s : String) : List String :=
  ((s.toList.splitOnP Support.Unicode.isSpace).filter fun w => !w.isEmpty).map String.ofList

/-- The granted scope: an absent claim is `["PAYMENT"]`. -/
def ScopeClaim.granted : ScopeClaim → List String
  | .absent       => ["PAYMENT"]
  | .text value   => splitWords value
  | .items values => values
  | .other        => []

structure AuthorizationContext where
  evidenceId : String
  issuer : String
  agentId : String
  accountId : String
  delegationId : Option String
  scope : List String
  maxAmount : Option Decimal
  currency : Option String
  validUntil : Option Time
  digest : Option String
  version : Option String
  deriving DecidableEq, Repr

/-- `raise AuthorizationError(message)` when the check fails. -/
def require (condition : Bool) (message : String) : Except Error Unit :=
  if condition then .ok () else .error (.permissionError message)

@[simp] lemma require_eq_ok {condition : Bool} {message : String} {u : Unit} :
    require condition message = .ok u ↔ condition = true := by
  cases condition <;> simp [require]

/-- `AuthorizationContext.validate` -/
def AuthorizationContext.validate (context : AuthorizationContext) (now : Time)
    (agentId accountId : String) (amount : Decimal) (currency : String) : Except Error Unit := do
  require (context.evidenceId ≠ "" && context.issuer ≠ "") "authorization evidence is incomplete"
  require (context.agentId ≠ "" && context.accountId ≠ "") "authorization identity is incomplete"
  require (context.agentId = agentId && context.accountId = accountId)
    "authorization subject/account mismatch"
  require (!context.scope.isEmpty && decide ("PAYMENT" ∈ context.scope))
    "requested action is outside authorization scope"
  require (decide (0 < amount.units)) "payment amount must be positive"
  require (context.maxAmount.any fun limit => decide (0 < limit.units))
    "authorized maximum amount is required"
  require (context.maxAmount.any fun limit => decide (amount.units ≤ limit.units))
    "payment exceeds authorized amount"
  require (context.currency.any fun c => c ≠ "") "authorized currency is required"
  require (context.currency.any fun c => upper c = upper currency)
    "payment currency is outside authorization"
  require context.validUntil.isSome "authorization expiry is required"
  require (context.validUntil.any fun expiry => decide (now < expiry))
    "authorization evidence is expired"

/-- `verify_signed_assertion` -/
def verifySignedAssertion (env : Env) (now : Time) (assertion : String)
    (agentId accountId : String) (amount : Decimal) (currency : String) :
    Except Error AuthorizationContext := do
  require env.assertionConfigured "ATF evidence verification is not fully configured"
  require (assertion ≠ "") "signed ATF authorization evidence is required"
  match env.decodeAssertion assertion now with
  | none => throw (.permissionError "invalid signed ATF authorization evidence")
  | some claims =>
    require (claims.protocolVersion = "atf/v1") "unsupported ATF protocol version"
    require (claims.decision = "ALLOW") "ATF authorization decision does not allow payment"
    require (claims.action = "PAYMENT") "ATF authorization action is not PAYMENT"
    require (claims.revocationStatus = "VALID")
      "ATF authorization evidence is not currently valid"
    require (claims.subjectAgent = agentId) "ATF evidence subject does not match agent"
    require (claims.accountId = accountId) "ATF evidence account does not match payment account"
    require (decide ("PAYMENT" ∈ claims.scope.granted))
      "ATF evidence does not grant PAYMENT scope"
    match claims.maxAmount with
    | none => throw (.permissionError "ATF maximum amount is invalid")
    | some maxAmount =>
      require (decide (0 < maxAmount.units)) "ATF maximum amount must be positive"
      let evidenceCurrency := upper claims.currency
      require (evidenceCurrency.length = 3 && evidenceCurrency = upper currency)
        "ATF currency does not match payment currency"
      require (decide (0 < amount.units) && decide (amount.units ≤ maxAmount.units))
        "payment exceeds ATF authorized amount"
      return {
        evidenceId := claims.evidenceId
        issuer := claims.iss
        agentId := agentId
        accountId := accountId
        delegationId := claims.delegationId.bind orNone
        scope := claims.scope.granted
        maxAmount := some maxAmount
        currency := some evidenceCurrency
        validUntil := some claims.exp
        digest := some (env.sha256 assertion)
        version := some claims.version }

/-- `require_agent` -/
def requireAgent (principal : Principal) (agentId accountId : String) : Except Error Unit := do
  require (principal.agentId = agentId && principal.accountId = accountId)
    "authenticated principal does not match payment actor"
  require (decide ("payments:create" ∈ principal.scopes))
    "principal lacks payments:create scope"

end AgentPay
