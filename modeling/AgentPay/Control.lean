import AgentPay.Authorization

/-!
# Policy, budget and approval control

`control.py` and `approval.py`.
-/

namespace AgentPay

open Support

/-! ### Approval bindings -/

/-- `approval.ApprovalBinding`, with the ids that the source renders as text. -/
structure ApprovalBinding where
  paymentRequestId : RequestId
  accountId : String
  agentId : String
  amount : Decimal
  currency : String
  merchantReference : Option String
  policyVersionId : Option PolicyVersionId
  authorizationEvidenceId : Option EvidenceId
  deriving DecidableEq, Repr

/-- The payload of the binding, keys sorted. -/
def ApprovalBinding.payload (b : ApprovalBinding) : Json :=
  .object
    [("account_id", .text b.accountId),
     ("agent_id", .text b.agentId),
     ("amount", .text b.amount.text),
     ("authorization_evidence_id", .ofText? (b.authorizationEvidenceId.map toString)),
     ("currency", .text (upper b.currency)),
     ("merchant_reference", .ofText? b.merchantReference),
     ("payment_request_id", .text (toString b.paymentRequestId)),
     ("policy_version_id", .ofText? (b.policyVersionId.map toString))]

/-- `ApprovalBinding.digest` -/
def ApprovalBinding.digest (env : Env) (b : ApprovalBinding) : String := env.digest b.payload

namespace ControlRepository

/-! ### Policies -/

/-- A row of the join in `active_policy`. -/
structure ActivePolicy where
  policyId : PolicyId
  versionId : PolicyVersionId
  version : ℕ
  rules : Option SpendingPolicy
  updatedAt : Time
  deriving DecidableEq, Repr

/-- The join: the active versions of the active policies of an account. -/
def activePolicies (db : Db) (accountId : String) : List ActivePolicy :=
  (List.range db.policyVersions.length).filterMap fun versionId => do
    let version ← db.policyVersions[versionId]?
    let policy ← db.policies[version.policyId]?
    if version.active && policy.active && policy.accountId = accountId then
      some ⟨version.policyId, versionId, version.version, version.rules, policy.updatedAt⟩
    else none

/-- `ORDER BY … DESC LIMIT 1`: the first row that no row precedes. -/
def newest (before : ActivePolicy → ActivePolicy → Bool) : List ActivePolicy → Option ActivePolicy
  | []      => none
  | r :: rs =>
    match newest before rs with
    | none   => some r
    | some b => if before b r then some b else some r

/-- `active_policy` -/
def activePolicy (db : Db) (accountId : String) : Option PolicyId → Option ActivePolicy
  | some policyId =>
    newest (fun b r => decide (r.version < b.version))
      ((activePolicies db accountId).filter (·.policyId = policyId))
  | none =>
    newest (fun b r => decide (r.updatedAt < b.updatedAt) ||
        (b.updatedAt = r.updatedAt && decide (r.version < b.version)))
      (activePolicies db accountId)

/-- The part of a request that `evaluate_policy` takes. -/
structure PolicyQuestion where
  accountId : String
  policyId : Option PolicyId
  paymentRequestId : RequestId
  amount : Decimal
  currency : String
  merchantDomain : String
  category : Option String
  deriving DecidableEq, Repr

/-- `PolicyDecision.evidence`; a version is the id of its row with its number. -/
structure PolicyEvidence where
  decision : PolicyDecision
  policyVersion : Option (PolicyVersionId × ℕ)
  evaluatedRules : List EvaluatedRule
  deriving DecidableEq, Repr

/-- The intent that is evaluated. -/
def PolicyQuestion.intent (q : PolicyQuestion) : PaymentIntent :=
  { amount := q.amount, currency := q.currency, merchantDomain := q.merchantDomain }

/-- `evaluate_policy`: a missing policy denies, an unreadable one raises. -/
def evaluatePolicy (db : Db) (q : PolicyQuestion) :
    Except Error ((Decision × Option PolicyVersionId × PolicyEvidence) × Db) :=
  match activePolicy db q.accountId q.policyId with
  | none => .ok ((.deny, none, ⟨⟨.deny, ["NO_ACTIVE_POLICY"]⟩, none, []⟩), db)
  | some row =>
    match row.rules with
    | none => .error (.valueError "invalid policy schedule")
    | some policy =>
      let result := policy.evaluateWithTrace q.intent q.category
      .ok ((result.decision, some row.versionId,
          ⟨result, some (row.versionId, row.version), policy.evaluatedRules⟩),
        { db with
          paymentRequests := db.paymentRequests.update q.paymentRequestId
            (fun r => { r with policyVersionId := some row.versionId }) fun _ => rfl })

/-! ### Budgets -/

/-- The `WHERE` clause of both queries in `select_budget`. -/
def compatibleBudget (accountId currency : String) (policyId : Option PolicyId) (b : Budget) :
    Bool :=
  b.accountId = accountId && b.currency = currency && b.active &&
    (b.policyId.isNone || b.policyId = policyId)

/-- `select_budget`: the named budget, or the only compatible one. -/
def selectBudget (db : Db) (accountId : String) (budgetId : Option BudgetId) (currency : String)
    (policyId : Option PolicyId) : Option BudgetId :=
  let candidates := (List.range db.budgets.length).filter fun id =>
    (db.budgets[id]?).any (compatibleBudget accountId currency policyId)
  match budgetId with
  | some id => if id ∈ candidates then some id else none
  | none =>
    match candidates with
    | [id] => some id
    | _    => none

/-- `bind_budget` -/
def bindBudget (db : Db) (requestId : RequestId) (budgetId : BudgetId) : Db :=
  { db with
    paymentRequests := db.paymentRequests.update requestId
      (fun r => { r with budgetId := some budgetId }) fun _ => rfl }

/-! ### Approvals -/

/-- The domain of the request's merchant. -/
def merchantDomain (db : Db) (request : PaymentRequest) : Option String :=
  (request.merchantId.bind (db.merchants[·]?)).bind (·.domain)

/-- The binding of a request as its row stands. -/
def bindingOf (db : Db) (requestId : RequestId) (request : PaymentRequest) : ApprovalBinding :=
  { paymentRequestId := requestId, accountId := request.accountId, agentId := request.agentId,
    amount := request.amount.toDecimal, currency := strip request.currency,
    merchantReference := merchantDomain db request, policyVersionId := request.policyVersionId,
    authorizationEvidenceId := request.authorizationEvidenceId }

/-- `create_approval`, open for fifteen minutes. -/
def createApproval (env : Env) (now : Time) (db : Db) (requestId : RequestId)
    (reason : Option String) : Except Error (ApprovalId × Db) :=
  match db.paymentRequests.get? requestId with
  | none => .error (.lookupError "payment request not found")
  | some request =>
    let approval : Approval :=
      { paymentRequestId := requestId, status := .pending, expiresAt := some (now + 15 * 60),
        approvedBy := none, reason, intentDigest := (bindingOf db requestId request).digest env }
    .ok (db.approvals.length, { db with approvals := db.approvals ++ [approval] })

/-- The row `set_approval` writes. -/
def decidedApproval (status : ApprovalStatus) (actor : String) (reason : Option String)
    (a : Approval) : Approval :=
  { a with status, approvedBy := if status = .approved then some actor else a.approvedBy,
           reason := reason <|> a.reason }

/-- `set_approval` -/
def setApproval (db : Db) (approvalId : ApprovalId) (status : ApprovalStatus) (actor : String)
    (reason : Option String) : Db :=
  { db with approvals := db.approvals.modify approvalId (decidedApproval status actor reason) }

/-- The row of the join in `payment_request`. -/
def requestRow (db : Db) (requestId : RequestId) :
    Option (PaymentRequest × PaymentId × Payment) := do
  let request ← db.paymentRequests.get? requestId
  let (paymentId, payment) ← db.payments.find? requestId
  return (request, paymentId, payment)

/-- `payment_request`: the request with its payment. Its `FOR UPDATE` is of all three tables, of
which `merchants` is on the nullable side of the join. -/
def paymentRequest (env : Env) (db : Db) (requestId : RequestId) :
    Except Error (Option (PaymentRequest × PaymentId × Payment)) :=
  if env.locksOuterJoins then .ok (requestRow db requestId) else .error .featureNotSupported

end ControlRepository

end AgentPay
