import AgentPay.Acceptance

/-!
# The rows of a decision

A payment is decided by the transaction that creates it, and once more when it waits for an
approval. What these transactions write is one new row in the tables of a payment, or one update of
the rows it has.
-/

namespace AgentPay

open Support

/-! ### The updates of a request -/

namespace PaymentRequest

def decidedBy (versionId : PolicyVersionId) (r : PaymentRequest) : PaymentRequest :=
  { r with policyVersionId := some versionId }

def paidBy (budgetId : BudgetId) (r : PaymentRequest) : PaymentRequest :=
  { r with budgetId := some budgetId }

def link (id : ReservationId) (r : PaymentRequest) : PaymentRequest :=
  { r with budgetReservationId := some id }

end PaymentRequest

/-! ### Prepare -/

/-- What `prepare` found and wrote when it returns. -/
lemma PaymentOrchestrator.prepare_rows {db db' : Db} {p : PaymentId} {i : RequestId}
    {budgetId : BudgetId} {amount : Decimal} {currency : String} {id : ReservationId}
    (hrun : prepare db p i budgetId amount currency = .ok (id, db')) :
    ∃ request budget stored reservations,
      db.paymentRequests.get? i = some request ∧
      (request.authorizationEvidenceId.bind (db.authorizationEvidence[·]?)).map
        (·.verificationStatus) = some .verified ∧
      request.amount.toDecimal.units = amount.units ∧
      db.budgets[budgetId]? = some budget ∧
      budget.refuses (normCurrency request.currency) amount = false ∧
      Amount.store amount = .ok stored ∧ id = db.budgetReservations.nextId ∧
      reservations.rows = db.budgetReservations.rows ++
        [⟨budgetId, i, stored, budget.currency, .reserved⟩] ∧
      db' = { db with
        paymentRequests := db.paymentRequests.update i (.link id) fun _ => rfl
        payments := db.payments.update p (PaymentRepository.withStatus .processing none)
          fun _ => rfl
        budgetReservations := reservations
        budgets := db.budgets.modify budgetId (·.addReserved amount)
        outboxEvents := db.outboxEvents ++ [.paymentStarted p id] } := by
  obtain ⟨payment, request, db₁, -, hr, -, hverified, hunits, -, -, hreserve, rfl⟩ :=
    prepare_eq_ok hrun
  obtain ⟨budget, stored, reservations, budgets, hbudget, hrefuses, hstored, hrows, rfl, rfl,
    rfl⟩ := BudgetRepository.reserve_eq_ok hreserve
  have hcurrency : BudgetRepository.requestCurrency db i = normCurrency request.currency := by
    simp [BudgetRepository.requestCurrency, hr]
  exact ⟨request, budget, stored, reservations, hr, hverified, hunits, hbudget,
    hcurrency ▸ hrefuses, hstored, rfl, hrows, rfl⟩

/-! ### Verdicts -/

/-- How a payment is decided by the transaction that creates it. -/
inductive Verdict where
  | denied (versionId : Option PolicyVersionId)
  | unfunded (versionId : PolicyVersionId)
  | waits (versionId : PolicyVersionId) (budgetId : BudgetId)
  | starts (notify : Bool) (versionId : PolicyVersionId) (budgetId : BudgetId)
  deriving DecidableEq, Repr

/-- The intent that is put to the policy. -/
def Intake.intent (i : Intake) : PaymentIntent :=
  { amount := i.request.amount.decimal, currency := i.request.currency,
    merchantDomain := (i.request.merchant.bind (·.domain)).getD "" }

/-- The decision of a row of the join on the intent, `none` where its rules cannot be read. -/
def ControlRepository.ActivePolicy.decision (row : ActivePolicy) (i : Intake) : Option Decision :=
  row.rules.map fun policy =>
    (policy.evaluateWithTrace i.intent (i.request.merchant.bind (·.category))).decision

/-- The policy that decides an intake. -/
def Intake.policy (i : Intake) (db : Db) : Option ControlRepository.ActivePolicy :=
  ControlRepository.activePolicy db i.request.accountId i.request.policyId

/-- The budget that pays an intake which the policy row lets pass. -/
def Intake.budget (i : Intake) (db : Db) (row : ControlRepository.ActivePolicy) : Option BudgetId :=
  ControlRepository.selectBudget db i.request.accountId i.request.budgetId i.request.currency
    (policyIdOf db (some row.versionId))

namespace Verdict

/-- What a verdict rests on, in the database that the creation found. -/
inductive Justified (db : Db) (i : Intake) : Verdict → Prop where
  | missing (hnone : i.policy db = none) : Justified db i (.denied none)
  | denied {row} (hrow : i.policy db = some row) (hdecision : row.decision i = some .deny) :
      Justified db i (.denied (some row.versionId))
  | unfunded {row decision} (hrow : i.policy db = some row)
      (hdecision : row.decision i = some decision) (hne : decision ≠ .deny)
      (hbudget : i.budget db row = none) : Justified db i (.unfunded row.versionId)
  | waits {row b} (hrow : i.policy db = some row)
      (hdecision : row.decision i = some .requireApproval) (hbudget : i.budget db row = some b) :
      Justified db i (.waits row.versionId b)
  | starts {row b notify} (hrow : i.policy db = some row)
      (hdecision : row.decision i = some (if notify then .allowNotify else .allowAuto))
      (hbudget : i.budget db row = some b) : Justified db i (.starts notify row.versionId b)

/-- The status of the payment. -/
def status : Verdict → PaymentStatus
  | .denied _ | .unfunded _ => .failed
  | .waits _ _              => .approvalRequired
  | .starts _ _ _           => .processing

def versionId : Verdict → Option PolicyVersionId
  | .denied versionId                                             => versionId
  | .unfunded versionId | .waits versionId _ | .starts _ versionId _ => some versionId

def budgetId : Verdict → Option BudgetId
  | .denied _ | .unfunded _                 => none
  | .waits _ budgetId | .starts _ _ budgetId => some budgetId

/-- What the caller is answered. -/
def outcome (p : PaymentId) (detail : CreateDetail) : Verdict → CreateOutcome
  | .denied _     => .deferred 403 "payment denied by policy"
  | .unfunded _   => .deferred 409 "exactly one active compatible budget is required"
  | .waits _ _    => .returned p .approvalRequired detail
  | .starts _ _ _ => .returned p .processing detail

variable (db : Db) (i : Intake) (amount : Amount) (merchantId : Option MerchantId)

/-- The reservation of the request, when the payment starts. -/
def reservationId : Verdict → Option ReservationId
  | .starts _ _ _ => some db.budgetReservations.nextId
  | _             => none

/-- The request row that is committed. -/
def request (v : Verdict) : PaymentRequest :=
  { i.requestRow amount merchantId db.authorizationEvidence.length with
    policyVersionId := v.versionId, budgetId := v.budgetId,
    budgetReservationId := v.reservationId db }

/-- The payment row that is committed. -/
def payment (v : Verdict) : Payment :=
  PaymentRepository.newPayment db.paymentRequests.nextId amount i.request.currency v.status

def reservations : Verdict → List BudgetReservation
  | .starts _ _ budgetId =>
    [⟨budgetId, db.paymentRequests.nextId, amount, i.request.currency, .reserved⟩]
  | _ => []

/-- The approval that is opened, `after` being the database with the rows it binds. -/
def approvals (env : Env) (now : Time) (after : Db) (v : Verdict) : List Approval :=
  match v with
  | .waits _ _ =>
    [{ paymentRequestId := db.paymentRequests.nextId, status := .pending,
       expiresAt := some (now + 15 * 60), approvedBy := none,
       reason := some "policy requires approval",
       intentDigest := (ControlRepository.bindingOf after db.paymentRequests.nextId
         (v.request db i amount merchantId)).digest env }]
  | _ => []

def events : Verdict → List OutboxEvent
  | .denied versionId => [.paymentFailed db.payments.nextId (.policyDenied versionId)]
  | .unfunded versionId => [.paymentFailed db.payments.nextId (.budgetUnavailable (some versionId))]
  | .waits versionId budgetId =>
    [.approvalRequested db.payments.nextId db.approvals.length (some versionId) budgetId]
  | .starts notify _ _ =>
    .paymentStarted db.payments.nextId db.budgetReservations.nextId ::
      if notify then
        [.notificationRequested db.payments.nextId i.request.amount.decimal i.request.currency]
      else []

end Verdict

/-- The rows that a creation with this verdict commits. -/
structure Verdict.Commits (env : Env) (now : Time) (db : Db) (i : Intake) (v : Verdict)
    (amount : Amount) (merchantId : Option MerchantId) (db' : Db) : Prop where
  stored : Amount.store i.request.amount.decimal = .ok amount
  free : db.paymentRequests.row? (i.request.accountId, i.idempotencyKey) = none
  requests : db'.paymentRequests.rows =
    db.paymentRequests.rows ++ [v.request db i amount merchantId]
  payments : db'.payments.rows = db.payments.rows ++ [v.payment db i amount]
  evidence : db'.authorizationEvidence = db.authorizationEvidence ++
    [{ i.evidenceRow with paymentRequestId := some db.paymentRequests.nextId }]
  merchants : ∃ added, db'.merchants = db.merchants ++ added
  approvals : db'.approvals = db.approvals ++ v.approvals db i amount merchantId env now db'
  reservations : db'.budgetReservations.rows = db.budgetReservations.rows ++
    v.reservations db i amount
  budgets : ∀ id : BudgetId,
    (db'.budgets[id]?).map Budget.terms = (db.budgets[id]?).map Budget.terms
  outbox : db'.outboxEvents = db.outboxEvents ++ v.events db i
  rest : db' = { db with
    merchants := db'.merchants, authorizationEvidence := db'.authorizationEvidence,
    paymentRequests := db'.paymentRequests, payments := db'.payments, approvals := db'.approvals,
    budgets := db'.budgets, budgetReservations := db'.budgetReservations,
    outboxEvents := db'.outboxEvents }

/-! ### The selected budget -/

/-- A selected budget is active, in the currency, and of the account. -/
lemma ControlRepository.selectBudget_eq_some {db : Db} {accountId currency : String}
    {budgetId : Option BudgetId} {policyId : Option PolicyId} {id : BudgetId}
    (h : selectBudget db accountId budgetId currency policyId = some id) :
    ∃ b, db.budgets[id]? = some b ∧ compatibleBudget accountId currency policyId b = true := by
  have hmem : id ∈ (List.range db.budgets.length).filter fun id =>
      (db.budgets[id]?).any (compatibleBudget accountId currency policyId) := by
    simp only [selectBudget] at h
    cases budgetId with
    | some named =>
      simp only at h
      split_ifs at h with hmem
      obtain rfl := Option.some.inj h
      exact hmem
    | none =>
      simp only at h
      split at h
      · rename_i only heq
        rw [heq, ← Option.some.inj h]
        exact List.mem_singleton_self only
      · cases h
  have hany := (List.mem_filter.mp hmem).2
  cases hb : db.budgets[id]? with
  | none => simp [hb] at hany
  | some b => exact ⟨b, rfl, by simpa [hb] using hany⟩

/-- Reserving writes no terms of a budget. -/
lemma Budget.terms_modify (budgets : List Budget) (budgetId : BudgetId) (amount : Decimal)
    (id : BudgetId) :
    ((budgets.modify budgetId (·.addReserved amount))[id]?).map Budget.terms =
      (budgets[id]?).map Budget.terms := by
  rw [List.getElem?_modify]
  cases budgets[id]? with
  | none => rfl
  | some b =>
    simp only [Option.map_eq_map, Option.map_some]
    split_ifs <;> rfl

/-! ### Every creation has a verdict -/

/-- The last row of a table is updated where it stands. -/
lemma Table.rows_update_last {ρ κ : Type} {key : ρ → Option κ} {t t' : Table ρ key} {r : ρ}
    (h : t'.rows = t.rows ++ [r]) (f : ρ → ρ) (hf : ∀ r, key (f r) = key r) :
    (t'.update t.nextId f hf).rows = t.rows ++ [f r] := by
  rw [Table.rows_update, h]
  exact modify_length_append t.rows r f

lemma Opens.policy {db opened : Db} {i : Intake} {amount : Amount}
    {merchantId : Option MerchantId} (h : Opens db i amount merchantId opened) :
    i.policy opened = i.policy db := by
  rw [h.rest]
  rfl

lemma Opens.budget {db opened : Db} {i : Intake} {amount : Amount}
    {merchantId : Option MerchantId} (h : Opens db i amount merchantId opened)
    (row : ControlRepository.ActivePolicy) : i.budget opened row = i.budget db row := by
  rw [h.rest]
  rfl

/-- What the evaluation finds and writes, once the request row stands. -/
lemma Opens.evaluate {db opened db₁ : Db} {i : Intake} {amount : Amount}
    {merchantId : Option MerchantId} (h : Opens db i amount merchantId opened)
    {decision : Decision} {versionId : Option PolicyVersionId}
    {evidence : ControlRepository.PolicyEvidence}
    (heval : ControlRepository.evaluatePolicy opened (i.question db.paymentRequests.nextId) =
      .ok ((decision, versionId, evidence), db₁)) :
    (i.policy db = none ∧ decision = .deny ∧ versionId = none ∧ db₁ = opened) ∨
      ∃ row, i.policy db = some row ∧ row.decision i = some decision ∧
        versionId = some row.versionId ∧
        db₁ = { opened with
          paymentRequests := opened.paymentRequests.update db.paymentRequests.nextId
            (.decidedBy row.versionId) fun _ => rfl } := by
  rcases ControlRepository.evaluatePolicy_eq_ok heval with
    ⟨hnone, rfl, rfl, rfl⟩ | ⟨row, policy, hrow, hpolicy, rfl, rfl, rfl⟩
  · exact .inl ⟨h.policy.symm.trans hnone, rfl, rfl, rfl⟩
  · refine .inr ⟨row, h.policy.symm.trans hrow, ?_, rfl, rfl⟩
    rw [ControlRepository.ActivePolicy.decision, hpolicy]
    rfl

/-- What remains to be said of the tables that a decision writes. -/
lemma Opens.commits {env : Env} {now : Time} {db opened db' : Db} {i : Intake} {amount : Amount}
    {merchantId : Option MerchantId} (h : Opens db i amount merchantId opened) {v : Verdict}
    (hrequests : db'.paymentRequests.rows =
      db.paymentRequests.rows ++ [v.request db i amount merchantId])
    (hpayments : db'.payments.rows = db.payments.rows ++ [v.payment db i amount])
    (happrovals : db'.approvals = db.approvals ++ v.approvals db i amount merchantId env now db')
    (hreservations : db'.budgetReservations.rows =
      db.budgetReservations.rows ++ v.reservations db i amount)
    (hbudgets : ∀ id : BudgetId,
      (db'.budgets[id]?).map Budget.terms = (db.budgets[id]?).map Budget.terms)
    (houtbox : db'.outboxEvents = db.outboxEvents ++ v.events db i)
    (hrest : db' = { opened with
      paymentRequests := db'.paymentRequests, payments := db'.payments, approvals := db'.approvals,
      budgets := db'.budgets, budgetReservations := db'.budgetReservations,
      outboxEvents := db'.outboxEvents }) : v.Commits env now db i amount merchantId db' where
  stored := h.stored
  free := h.free
  requests := hrequests
  payments := hpayments
  evidence := by
    rw [hrest]
    exact h.evidence
  merchants := by
    rw [hrest]
    exact h.merchants
  approvals := happrovals
  reservations := hreservations
  budgets := hbudgets
  outbox := houtbox
  rest := by
    have hopened := h.rest
    generalize db'.paymentRequests = requests, db'.payments = payments, db'.approvals = approvals,
      db'.budgets = budgets, db'.budgetReservations = reservations, db'.outboxEvents = events at *
    rw [hrest, hopened]

/-- A creation that is decided commits the rows of a verdict that is justified. -/
theorem Opens.decided {env : Env} {now : Time} {db opened db' : Db} {i : Intake} {amount : Amount}
    {merchantId : Option MerchantId} {outcome : CreateOutcome}
    (h : Opens db i amount merchantId opened)
    (hdecides : Decides env now opened i db.paymentRequests.nextId db.payments.nextId outcome db') :
    ∃ v : Verdict, v.Justified db i ∧ v.Commits env now db i amount merchantId db' ∧
      ∃ detail, outcome = v.outcome db.payments.nextId detail := by
  have hlast (f : PaymentRequest → PaymentRequest) (hf : ∀ r, (f r).key = r.key) :
      (opened.paymentRequests.update db.paymentRequests.nextId f hf).rows =
        db.paymentRequests.rows ++
          [f (i.requestRow amount merchantId db.authorizationEvidence.length)] :=
    Table.rows_update_last h.requests f hf
  have hpaid (status : PaymentStatus) :
      (opened.payments.update db.payments.nextId (PaymentRepository.withStatus status none)
        fun _ => rfl).rows = db.payments.rows ++ [PaymentRepository.newPayment
          db.paymentRequests.nextId amount i.request.currency status] :=
    Table.rows_update_last h.payments (PaymentRepository.withStatus status none) fun _ => rfl
  have hbudgets : opened.budgets = db.budgets := (congrArg Db.budgets h.rest :)
  have happrovals : opened.approvals = db.approvals := (congrArg Db.approvals h.rest :)
  have hreservations : opened.budgetReservations = db.budgetReservations :=
    (congrArg Db.budgetReservations h.rest :)
  have houtbox : opened.outboxEvents = db.outboxEvents := (congrArg Db.outboxEvents h.rest :)
  have hsame (id : BudgetId) :
      (opened.budgets[id]?).map Budget.terms = (db.budgets[id]?).map Budget.terms := by
    rw [hbudgets]
  cases hdecides with
  | denied heval =>
    rcases h.evaluate heval with ⟨hnone, -, rfl, rfl⟩ | ⟨row, hrow, hdecision, rfl, rfl⟩
    · exact ⟨.denied none, .missing hnone, h.commits h.requests (hpaid .failed)
        (happrovals.trans (List.append_nil _).symm)
        ((congrArg Table.rows hreservations).trans (List.append_nil _).symm) hsame
        (congrArg (· ++ _) houtbox) rfl, .replayed, rfl⟩
    · exact ⟨.denied (some row.versionId), .denied hrow hdecision,
        h.commits (hlast (.decidedBy row.versionId) fun _ => rfl)
          (hpaid .failed) (happrovals.trans (List.append_nil _).symm)
          ((congrArg Table.rows hreservations).trans (List.append_nil _).symm) hsame
          (congrArg (· ++ _) houtbox) rfl, .replayed, rfl⟩
  | unfunded heval hne hbudget =>
    rcases h.evaluate heval with ⟨-, rfl, -⟩ | ⟨row, hrow, hdecision, rfl, rfl⟩
    · exact absurd rfl hne
    have hbudget : i.budget opened row = none := hbudget
    exact ⟨.unfunded row.versionId,
      .unfunded hrow hdecision hne ((h.budget row).symm.trans hbudget),
      h.commits (hlast (.decidedBy row.versionId) fun _ => rfl)
        (hpaid .failed) (happrovals.trans (List.append_nil _).symm)
        ((congrArg Table.rows hreservations).trans (List.append_nil _).symm) hsame
        (congrArg (· ++ _) houtbox) rfl, .replayed, rfl⟩
  | @waits versionId evidence db₁ budgetId approvalId db₂ heval hbudget happroval =>
    rcases h.evaluate heval with ⟨-, hdeny, -⟩ | ⟨row, hrow, hdecision, rfl, rfl⟩
    · cases hdeny
    have hbudget : i.budget opened row = some budgetId := hbudget
    obtain ⟨request, hrequest, rfl, rfl⟩ := ControlRepository.createApproval_eq_ok happroval
    let v : Verdict := .waits row.versionId budgetId
    have hrows : ((opened.paymentRequests.update db.paymentRequests.nextId
        (.decidedBy row.versionId) fun _ => rfl).update db.paymentRequests.nextId
          (.paidBy budgetId) fun _ => rfl).rows =
        db.paymentRequests.rows ++ [v.request db i amount merchantId] :=
      Table.rows_update_last (hlast (.decidedBy row.versionId) fun _ => rfl) (.paidBy budgetId)
        fun _ => rfl
    have hnew := (Table.get?_of_rows_append hrows db.paymentRequests.nextId).trans (if_pos rfl)
    obtain rfl := Option.some.inj (hrequest.symm.trans hnew)
    refine ⟨v, .waits hrow hdecision ((h.budget row).symm.trans hbudget),
      h.commits hrows (hpaid .approvalRequired) (congrArg (· ++ _) happrovals)
        ((congrArg Table.rows hreservations).trans (List.append_nil _).symm) hsame ?_ rfl, _, rfl⟩
    show opened.outboxEvents ++ [OutboxEvent.approvalRequested db.payments.nextId
      opened.approvals.length (some row.versionId) budgetId] = _
    rw [happrovals, houtbox]
    rfl
  | @starts decision versionId evidence db₁ budgetId reservationId db₂ heval hdecision hbudget
      hprepare =>
    rcases h.evaluate heval with ⟨-, rfl, -⟩ | ⟨row, hrow, hdecision', rfl, rfl⟩
    · rcases hdecision with hdecision | hdecision <;> cases hdecision
    have hbudget : i.budget opened row = some budgetId := hbudget
    obtain ⟨request, budget, stored, reservations, -, -, -, hrow', -, hstored, rfl, hrows, rfl⟩ :=
      PaymentOrchestrator.prepare_rows hprepare
    obtain rfl := Except.ok.inj (h.stored.symm.trans hstored)
    obtain ⟨budget', hbudget', hcompatible⟩ := ControlRepository.selectBudget_eq_some hbudget
    obtain rfl := Option.some.inj (hrow'.symm.trans hbudget')
    have hcurrency : budget.currency = i.request.currency := by
      simp only [ControlRepository.compatibleBudget, Bool.and_eq_true, decide_eq_true_eq]
        at hcompatible
      exact hcompatible.1.1.2
    let v : Verdict := .starts (decision = .allowNotify) row.versionId budgetId
    have hrequests : (((opened.paymentRequests.update db.paymentRequests.nextId
        (.decidedBy row.versionId) fun _ => rfl).update db.paymentRequests.nextId
          (.paidBy budgetId) fun _ => rfl).update db.paymentRequests.nextId
          (.link opened.budgetReservations.nextId) fun _ => rfl).rows =
        db.paymentRequests.rows ++ [v.request db i amount merchantId] := by
      rw [hreservations]
      exact Table.rows_update_last (Table.rows_update_last (hlast (.decidedBy row.versionId)
        fun _ => rfl) (.paidBy budgetId) fun _ => rfl) (.link db.budgetReservations.nextId)
        fun _ => rfl
    have hreserved : reservations.rows =
        db.budgetReservations.rows ++ v.reservations db i amount := by
      rw [hrows, hcurrency, ← hreservations]
      rfl
    have hkept (id : BudgetId) : ((opened.budgets.modify budgetId (·.addReserved
        i.request.amount.decimal))[id]?).map Budget.terms = (db.budgets[id]?).map Budget.terms :=
      (Budget.terms_modify ..).trans (hsame id)
    have hjustified : v.Justified db i := by
      refine .starts hrow ?_ ((h.budget row).symm.trans hbudget)
      rcases hdecision with rfl | rfl <;> exact hdecision'
    rcases hdecision with rfl | rfl
    · refine ⟨v, hjustified, h.commits hrequests (hpaid .processing)
        (happrovals.trans (List.append_nil _).symm) hreserved hkept ?_ rfl, _, rfl⟩
      show opened.outboxEvents ++ [OutboxEvent.paymentStarted db.payments.nextId
        opened.budgetReservations.nextId] = _
      rw [houtbox, hreservations]
      rfl
    · refine ⟨v, hjustified, h.commits hrequests (hpaid .processing)
        (happrovals.trans (List.append_nil _).symm) hreserved hkept ?_ rfl, _, rfl⟩
      show (opened.outboxEvents ++ [OutboxEvent.paymentStarted db.payments.nextId
        opened.budgetReservations.nextId]) ++ [_] = _
      rw [houtbox, hreservations, List.append_assoc]
      rfl

/-- The budget of a verdict is one of the account in the currency, and active. -/
lemma Verdict.Justified.budget {db : Db} {i : Intake} {v : Verdict} (h : v.Justified db i)
    {b : BudgetId} (hb : v.budgetId = some b) :
    ∃ budget, db.budgets[b]? = some budget ∧ budget.accountId = i.request.accountId ∧
      budget.currency = i.request.currency ∧ budget.active = true := by
  have hselected : ∃ row, i.budget db row = some b := by
    cases h with
    | missing | denied | unfunded => cases hb
    | waits hrow hdecision hbudget | starts hrow hdecision hbudget =>
      obtain rfl := Option.some.inj hb
      exact ⟨_, hbudget⟩
  obtain ⟨row, hselected⟩ := hselected
  obtain ⟨budget, hbudget, hcompatible⟩ := ControlRepository.selectBudget_eq_some hselected
  simp only [ControlRepository.compatibleBudget, Bool.and_eq_true, decide_eq_true_eq] at hcompatible
  obtain ⟨⟨⟨haccount, hcurrency⟩, hactive⟩, -⟩ := hcompatible
  exact ⟨budget, hbudget, haccount, hcurrency, hactive⟩

/-! ### The second decision -/

/-- The rows that an approval of payment `p` rewrites, with what it has checked. -/
structure Approves (env : Env) (now : Time) (db : Db) (id : ApprovalId) (reason : Option String)
    (actor : String) (approval : Approval) (request : PaymentRequest) (payment : Payment)
    (budgetId : BudgetId) (budget : Budget) (p : PaymentId) (db' : Db) : Prop where
  approvals : db.approvals[id]? = some approval
  pending : approval.status = .pending
  unexpired : ∀ expiry ∈ approval.expiresAt, now < expiry
  requests : db.paymentRequests.get? approval.paymentRequestId = some request
  payments : db.payments.get? p = some payment
  bound : payment.paymentRequestId = approval.paymentRequestId
  waiting : payment.status = .approvalRequired
  selected : request.budgetId = some budgetId
  digest : approval.intentDigest =
    (ControlRepository.bindingOf db approval.paymentRequestId request).digest env
  verified : (request.authorizationEvidenceId.bind (db.authorizationEvidence[·]?)).map
    (·.verificationStatus) = some .verified
  budgets : db.budgets[budgetId]? = some budget
  covered : budget.refuses (normCurrency request.currency) request.amount.toDecimal = false
  reservations : db'.budgetReservations.rows = db.budgetReservations.rows ++
    [⟨budgetId, approval.paymentRequestId, request.amount, budget.currency, .reserved⟩]
  rest : db' = { db with
    approvals := db.approvals.modify id (ControlRepository.decidedApproval .approved actor reason)
    paymentRequests := db.paymentRequests.update approval.paymentRequestId
      (.link db.budgetReservations.nextId) fun _ => rfl
    payments := db.payments.update p (PaymentRepository.withStatus .processing none) fun _ => rfl
    budgetReservations := db'.budgetReservations
    budgets := db.budgets.modify budgetId (·.addReserved request.amount.toDecimal)
    outboxEvents := db.outboxEvents ++
      [.paymentStarted p db.budgetReservations.nextId, .paymentApproved p id actor] }

/-- A row that is decided. -/
lemma getElem?_decided {approvals : List Approval} {id : ApprovalId} {approval : Approval}
    (h : approvals[id]? = some approval) (status : ApprovalStatus) (actor : String)
    (reason : Option String) (a : ApprovalId) :
    (approvals.modify id (ControlRepository.decidedApproval status actor reason))[a]? =
      if id = a then some (ControlRepository.decidedApproval status actor reason approval)
      else approvals[a]? := by
  rw [List.getElem?_modify]
  split_ifs with ha
  · rw [← ha, h]
    rfl
  · cases approvals[a]? <;> rfl

/-- An approval that succeeds has not expired. -/
lemma approvePayment_unexpired {env : Env} {now : Time} {db : Db} {id : ApprovalId}
    {reason authorization : Option String} {approval : Approval}
    {x : (PaymentId × PaymentStatus) × Db}
    (hrun : approvePayment env now db id reason authorization = .ok x)
    (happroval : db.approvals[id]? = some approval) :
    ∀ expiry ∈ approval.expiresAt, now < expiry := by
  simp only [approvePayment] at hrun
  obtain ⟨actor, -, hrun⟩ := Except.bind_eq_ok.mp hrun
  rw [happroval] at hrun
  simp only at hrun
  by_cases hpending : approval.status ≠ .pending
  · rw [if_pos hpending] at hrun
    cases hrun
  rw [if_neg hpending] at hrun
  by_cases hexpired : approval.expiresAt.any fun expiry => decide (expiry ≤ now)
  · rw [if_pos hexpired] at hrun
    cases hrun
  intro expiry hexpiry
  rw [Option.mem_def.mp hexpiry] at hexpired
  simpa using hexpired

/-- What `approve_payment` checks and writes when it returns. -/
theorem approvePayment_rows {env : Env} {now : Time} {db db' : Db} {id : ApprovalId}
    {reason authorization : Option String} {p : PaymentId} {status : PaymentStatus}
    (hrun : approvePayment env now db id reason authorization = .ok ((p, status), db')) :
    ∃ actor approval request payment budgetId budget,
      Approves env now db id reason actor approval request payment budgetId budget p db' := by
  obtain ⟨actor, approval, request, payment, budgetId, reservationId, db₁, happroval, hpending,
    hreq, hwaiting, hbudgetId, hdigest, hprepare, rfl⟩ := approvePayment_eq_ok hrun
  obtain ⟨hrequest, hpayment, hbound⟩ := ControlRepository.requestRow_eq_some hreq
  obtain ⟨request', budget, stored, reservations, hrequest', hverified, -, hbudget, hrefuses,
    hstored, rfl, hrows, rfl⟩ := PaymentOrchestrator.prepare_rows hprepare
  obtain rfl := Option.some.inj (hrequest.symm.trans hrequest')
  obtain rfl := Except.ok.inj ((Amount.store_toDecimal request.amount).symm.trans hstored)
  exact ⟨actor, approval, request, payment, budgetId, budget,
    { approvals := happroval
      pending := hpending
      unexpired := approvePayment_unexpired hrun happroval
      requests := hrequest
      payments := hpayment
      bound := hbound
      waiting := hwaiting
      selected := hbudgetId
      digest := hdigest
      verified := hverified
      budgets := hbudget
      covered := hrefuses
      reservations := hrows
      rest := by
        simp only [enqueue, List.append_assoc]
        rfl }⟩

namespace Approves

variable {env : Env} {now : Time} {db db' : Db} {id : ApprovalId} {reason : Option String}
  {actor : String} {approval : Approval} {request : PaymentRequest} {payment : Payment}
  {budgetId : BudgetId} {budget : Budget} {p : PaymentId}
  (h : Approves env now db id reason actor approval request payment budgetId budget p db')

include h

/-- Only the request is linked, with the new reservation. -/
lemma request_get? (i : RequestId) : db'.paymentRequests.get? i =
    if approval.paymentRequestId = i then some (request.link db.budgetReservations.nextId)
    else db.paymentRequests.get? i := by
  have hget : db'.paymentRequests.get? i = (db.paymentRequests.update approval.paymentRequestId
      (.link db.budgetReservations.nextId) fun _ => rfl).get? i :=
    congrArg (fun db : Db => db.paymentRequests.get? i) h.rest
  refine (hget.trans (Table.get?_update ..)).trans ?_
  split_ifs with hi
  · rw [← hi, h.requests]
    rfl
  · rfl

/-- Only the payment starts. -/
lemma payment_get? (q : PaymentId) : db'.payments.get? q =
    if p = q then some (PaymentRepository.withStatus .processing none payment)
    else db.payments.get? q := by
  have hget : db'.payments.get? q = (db.payments.update p
      (PaymentRepository.withStatus .processing none) fun _ => rfl).get? q :=
    congrArg (fun db : Db => db.payments.get? q) h.rest
  refine (hget.trans (Table.get?_update ..)).trans ?_
  split_ifs with hq
  · rw [← hq, h.payments]
    rfl
  · rfl

/-- A request of the database after is one of the database before, linked or not. -/
lemma request_some {i : RequestId} {r : PaymentRequest} (hr : db'.paymentRequests.get? i = some r) :
    ∃ r₀, db.paymentRequests.get? i = some r₀ ∧ (approval.paymentRequestId ≠ i ∧ r = r₀ ∨
      approval.paymentRequestId = i ∧ r₀ = request ∧
        r = r₀.link db.budgetReservations.nextId) := by
  rw [h.request_get?] at hr
  split_ifs at hr with hi
  · obtain rfl := Option.some.inj hr
    exact ⟨request, hi ▸ h.requests, .inr ⟨hi, rfl, rfl⟩⟩
  · exact ⟨r, hr, .inl ⟨hi, rfl⟩⟩

lemma payment_terms (q : PaymentId) :
    (db'.payments.get? q).map Payment.terms = (db.payments.get? q).map Payment.terms := by
  rw [h.payment_get?]
  split_ifs with hq
  · rw [← hq, h.payments]
    rfl
  · rfl

lemma approval_get? (a : ApprovalId) : db'.approvals[a]? =
    if id = a then some (ControlRepository.decidedApproval .approved actor reason approval)
    else db.approvals[a]? := by
  refine (congrArg (fun db : Db => db.approvals[a]?) h.rest).trans ?_
  exact getElem?_decided h.approvals ..

lemma budget_terms (b : BudgetId) :
    (db'.budgets[b]?).map Budget.terms = (db.budgets[b]?).map Budget.terms := by
  refine (congrArg (fun db : Db => (db.budgets[b]?).map Budget.terms) h.rest).trans ?_
  exact Budget.terms_modify ..

end Approves

end AgentPay
