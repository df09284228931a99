import AgentPay.Denials

/-!
# Controls at the moment of execution

`create_payment` checks the assertion before its transaction and the status of the budget inside
it; `approve_payment` looks at neither again (on PostgreSQL it is refused before it would), and
nothing reads the period of a budget.
-/

namespace AgentPay

open Support

/-! ### Operators -/

/-- `UPDATE budgets SET status=…, period_start=…, period_end=… WHERE id=…` -/
structure BudgetChange where
  budgetId : BudgetId
  active : Bool
  periodStart : Option Time
  periodEnd : Option Time
  deriving DecidableEq, Repr

/-- What a change leaves of the budget with an id. -/
def BudgetChange.apply (id : BudgetId) (b : Budget) (c : BudgetChange) : Budget :=
  if c.budgetId = id then
    { b with active := c.active, periodStart := c.periodStart, periodEnd := c.periodEnd }
  else b

def Budget.after (changes : List BudgetChange) (id : BudgetId) (b : Budget) : Budget :=
  changes.foldl (BudgetChange.apply id) b

def Db.change (changes : List BudgetChange) (db : Db) : Db :=
  { db with budgets := db.budgets.mapIdx fun id b => b.after changes id }

/-- A step of the system or of the operators. `act` has the changes that commit while its
transaction runs, after it has selected a budget. -/
inductive Operation where
  | administer (changes : List BudgetChange)
  | act (a : Action) (changes : List BudgetChange)

def State.operate (env : Env) (s : State) : Operation → State
  | .administer changes => { s with db := s.db.change changes }
  | .act a changes      => { s.step env a with db := (s.step env a).db.change changes }

/-! ### The controls -/

/-- The instant lies in the period of the budget, as far as it has one. -/
def Budget.InPeriod (b : Budget) (now : Time) : Prop :=
  (∀ start ∈ b.periodStart, start ≤ now) ∧ ∀ stop ∈ b.periodEnd, now < stop

instance (b : Budget) (now : Time) : Decidable (b.InPeriod now) := by
  unfold Budget.InPeriod
  infer_instance

/-- The evidence that a request is bound to. -/
def Db.boundEvidence (db : Db) (request : PaymentRequest) : Option AuthorizationEvidence :=
  request.authorizationEvidenceId.bind (db.authorizationEvidence[·]?)

/-- The evidence that the request of a reservation is bound to has not expired. -/
def Db.EvidenceValid (db : Db) (now : Time) (r : BudgetReservation) : Prop :=
  ∃ request ∈ db.paymentRequests.get? r.paymentRequestId, ∃ evidence ∈ db.boundEvidence request,
    ∀ expiry ∈ evidence.expiresAt, now < expiry

/-- The budget of a reservation is ACTIVE and in its period. -/
def Db.BudgetOpen (db : Db) (now : Time) (r : BudgetReservation) : Prop :=
  ∃ b ∈ db.budgets[r.budgetId]?, b.active = true ∧ b.InPeriod now

instance (db : Db) (now : Time) (r : BudgetReservation) : Decidable (db.EvidenceValid now r) := by
  unfold Db.EvidenceValid
  infer_instance

instance (db : Db) (now : Time) (r : BudgetReservation) : Decidable (db.BudgetOpen now r) := by
  unfold Db.BudgetOpen
  infer_instance

/-- The instant of a request that may reserve. -/
def Operation.now : Operation → Option Time
  | .act (.commitPayment _ now) _ | .act (.approve now _ _ _) _ => some now
  | _                                                          => none

/-- Every reservation that a step commits is controlled at the instant of the step. -/
def Operation.Controlled (env : Env) (s : State) (o : Operation) : Prop :=
  ∀ id r, (s.operate env o).db.budgetReservations.get? id = some r →
    s.db.budgetReservations.get? id = none →
    ∃ now ∈ o.now, (s.operate env o).db.EvidenceValid now r ∧ (s.operate env o).db.BudgetOpen now r

/-! ### The condition -/

/-- A payment that a policy lets start has evidence that outlasts the transaction and a budget in
its period, which no operator takes out of ACTIVE while the transaction runs. -/
def Intake.InTime (i : Intake) (db : Db) (now : Time) (changes : List BudgetChange) : Prop :=
  ∀ row ∈ i.policy db, row.decision i ∈ [some .allowAuto, some .allowNotify] →
    ∀ id ∈ i.budget db row, ∀ b ∈ db.budgets[id]?,
      (∀ expiry ∈ i.context.validUntil, now < expiry) ∧ (b.after changes id).InPeriod now ∧
        ((∃ c ∈ changes, c.budgetId = id) → (b.after changes id).active = true)

/-- A payment that is approved has evidence that has not expired since, and its budget is still
ACTIVE and in its period. -/
def Approval.InTime (approval : Approval) (db : Db) (now : Time) (changes : List BudgetChange) :
    Prop :=
  approval.status = .pending → (∀ expiry ∈ approval.expiresAt, now < expiry) →
    ∀ request ∈ db.paymentRequests.get? approval.paymentRequestId,
      (∀ evidence ∈ db.boundEvidence request, ∀ expiry ∈ evidence.expiresAt, now < expiry) ∧
      ∀ id ∈ request.budgetId, ∀ b ∈ db.budgets[id]?,
        (b.after changes id).active = true ∧ (b.after changes id).InPeriod now

def Operation.InTime (env : Env) (s : State) : Operation → Prop
  | .act (.commitPayment c now) changes =>
    ∀ i ∈ s.deciding (.commitPayment c now), i.InTime s.db now changes
  | .act (.approve now id _ _) changes =>
    env.locksOuterJoins = true →
      ∀ approval ∈ s.db.approvals[id]?, approval.InTime s.db now changes
  | _ => True

instance (i : Intake) (db : Db) (now : Time) (changes : List BudgetChange) :
    Decidable (i.InTime db now changes) := by
  unfold Intake.InTime
  infer_instance

instance (approval : Approval) (db : Db) (now : Time) (changes : List BudgetChange) :
    Decidable (approval.InTime db now changes) := by
  unfold Approval.InTime
  infer_instance

instance (env : Env) (s : State) : DecidablePred (Operation.InTime env s)
  | .administer _ => isTrue trivial
  | .act a changes => by
    cases a <;> unfold Operation.InTime <;> infer_instance

/-! ### One step -/

lemma Db.change_budgets (changes : List BudgetChange) (db : Db) (id : BudgetId) :
    (db.change changes).budgets[id]? = (db.budgets[id]?).map (Budget.after changes id) := by
  simp [change]

/-- Changes and reservations commute: a reservation leaves the columns alone that a change
writes. -/
lemma Budget.after_controls {b b' : Budget} (h : b'.terms = b.terms) (changes : List BudgetChange)
    (id : BudgetId) :
    ((b'.after changes id).active, (b'.after changes id).periodStart,
        (b'.after changes id).periodEnd) =
      ((b.after changes id).active, (b.after changes id).periodStart,
        (b.after changes id).periodEnd) := by
  induction changes generalizing b b' with
  | nil =>
    simp only [terms, Prod.mk.injEq] at h
    obtain ⟨-, -, -, -, hactive, hstart, hend⟩ := h
    simp only [after, List.foldl_nil, hactive, hstart, hend]
  | cons c changes ih =>
    have hstep : (c.apply id b').terms = (c.apply id b).terms := ?_
    · exact ih hstep
    simp only [terms, Prod.mk.injEq] at h
    obtain ⟨haccount, hpolicy, hcurrency, hlimit, hactive, hstart, hend⟩ := h
    simp only [BudgetChange.apply]
    split_ifs
    · simp only [terms, haccount, hpolicy, hcurrency, hlimit]
    · simp only [terms, haccount, hpolicy, hcurrency, hlimit, hactive, hstart, hend]

/-- A budget that no change names stays as it is. -/
lemma Budget.after_of_unnamed {changes : List BudgetChange} {id : BudgetId} {b : Budget}
    (h : ¬∃ c ∈ changes, c.budgetId = id) : b.after changes id = b := by
  induction changes with
  | nil => rfl
  | cons c changes ih =>
    have hc : c.apply id b = b := if_neg fun hid => h ⟨c, List.mem_cons_self, hid⟩
    show Budget.after changes id (c.apply id b) = b
    rw [hc]
    exact ih fun ⟨c', hmem, hid⟩ => h ⟨c', List.mem_cons_of_mem _ hmem, hid⟩

/-- The budget of a reservation is open when the budget it was taken from is. -/
lemma Db.budgetOpen_of_terms {db db' : Db} {changes : List BudgetChange} {now : Time}
    {r : BudgetReservation} {b : Budget}
    (hterms : (db'.budgets[r.budgetId]?).map Budget.terms = (db.budgets[r.budgetId]?).map
      Budget.terms) (hb : db.budgets[r.budgetId]? = some b)
    (hactive : (b.after changes r.budgetId).active = true)
    (hperiod : (b.after changes r.budgetId).InPeriod now) :
    (db'.change changes).BudgetOpen now r := by
  rw [hb, Option.map_some] at hterms
  obtain ⟨b', hb', hsame⟩ := Option.map_eq_some_iff.mp hterms
  have hcontrols := Budget.after_controls hsame changes r.budgetId
  simp only [Prod.mk.injEq] at hcontrols
  obtain ⟨hactive', hstart, hend⟩ := hcontrols
  refine ⟨b'.after changes r.budgetId, ?_, hactive'.trans hactive, ?_⟩
  · rw [change_budgets, hb']
    rfl
  · unfold Budget.InPeriod
    rw [hstart, hend]
    exact hperiod

/-- The reservation that a verdict commits. -/
lemma Verdict.Commits.reserved {env : Env} {now : Time} {db db' : Db} {i : Intake} {v : Verdict}
    {amount : Amount} {merchantId : Option MerchantId} (h : v.Commits env now db i amount merchantId
      db') {id : ReservationId} {r : BudgetReservation}
    (hnew : db'.budgetReservations.get? id = some r) (hold : db.budgetReservations.get? id = none) :
    ∃ notify versionId budgetId, v = .starts notify versionId budgetId ∧
      r = ⟨budgetId, db.paymentRequests.nextId, amount, i.request.currency, .reserved⟩ := by
  have hrows := h.reservations
  cases v with
  | starts notify versionId budgetId =>
    have hget := Table.get?_of_rows_append hrows id
    rw [hnew, hold] at hget
    split_ifs at hget with hid
    exact ⟨notify, versionId, budgetId, rfl, Option.some.inj hget⟩
  | _ =>
    have hget : db'.budgetReservations.get? id = db.budgetReservations.get? id :=
      congrArg (·[id]?) (hrows.trans (List.append_nil _))
    rw [hnew, hold] at hget
    cases hget

/-- The evidence that a created payment is bound to is what its call was verified with. -/
lemma Verdict.Commits.evidenceValid {env : Env} {now : Time} {db db' : Db} {i : Intake}
    {v : Verdict} {amount : Amount} {merchantId : Option MerchantId}
    (h : v.Commits env now db i amount merchantId db') {r : BudgetReservation}
    (hr : r.paymentRequestId = db.paymentRequests.nextId)
    (hvalid : ∀ expiry ∈ i.context.validUntil, now < expiry) : db'.EvidenceValid now r := by
  have hrequest : db'.paymentRequests.get? db.paymentRequests.nextId =
      some (v.request db i amount merchantId) :=
    (Table.get?_of_rows_append h.requests _).trans (if_pos rfl)
  refine ⟨_, hr ▸ hrequest, { i.evidenceRow with
    paymentRequestId := some db.paymentRequests.nextId }, ?_, hvalid⟩
  show db'.authorizationEvidence[db.authorizationEvidence.length]? = _
  rw [h.evidence]
  simp

/-- An approval leaves the evidence that the request is bound to. -/
lemma Approves.evidenceValid {env : Env} {now : Time} {db db' : Db} {id : ApprovalId}
    {reason : Option String} {actor : String} {approval : Approval} {request : PaymentRequest}
    {payment : Payment} {budgetId : BudgetId} {budget : Budget} {p : PaymentId}
    (h : Approves env now db id reason actor approval request payment budgetId budget p db')
    {r : BudgetReservation} (hr : r.paymentRequestId = approval.paymentRequestId)
    (hvalid : ∀ evidence ∈ db.boundEvidence request, ∀ expiry ∈ evidence.expiresAt, now < expiry) :
    db'.EvidenceValid now r := by
  obtain ⟨evidence, hbound, -⟩ := Option.map_eq_some_iff.mp h.verified
  refine ⟨_, (hr ▸ h.request_get? _).trans (if_pos rfl), evidence, ?_, hvalid evidence hbound⟩
  have hrows : db'.authorizationEvidence = db.authorizationEvidence :=
    (congrArg (fun db : Db => db.authorizationEvidence) h.rest :)
  show request.authorizationEvidenceId.bind (db'.authorizationEvidence[·]?) = some evidence
  rw [hrows]
  exact hbound

/-- A reservation that a step commits is controlled when the step is in time. -/
theorem State.operate_controlled {env : Env} {s : State} {o : Operation} (h : o.InTime env s) :
    o.Controlled env s := by
  intro id r hnew hold
  cases o with
  | administer changes =>
    cases hold.symm.trans hnew
  | act a changes =>
    replace hnew : (s.step env a).db.budgetReservations.get? id = some r := hnew
    have hwrites := step_writes env s a
    show ∃ now ∈ (Operation.act a changes).now,
      ((s.step env a).db.change changes).EvidenceValid now r ∧
        ((s.step env a).db.change changes).BudgetOpen now r
    generalize (s.step env a).db = db at hwrites hnew ⊢
    have hkept (hterms : (db.budgetReservations.get? id).map BudgetReservation.terms =
        (s.db.budgetReservations.get? id).map BudgetReservation.terms) : False := by
      rw [hnew, hold] at hterms
      cases hterms
    cases hwrites with
    | nothing | configures | replays => exact (hkept rfl).elim
    | executes _ hexecutes | finalizes _ hexecutes => exact (hkept (hexecutes.reservations id)).elim
    | @accepts now c i amount merchantId opened outcome _ hcreation hopens hdecides =>
      obtain ⟨v, hjustified, hcommits, -⟩ := hopens.decided hdecides
      obtain ⟨notify, versionId, budgetId, rfl, rfl⟩ := hcommits.reserved hnew hold
      have htime := h i (deciding_commitPayment hcreation now)
      obtain ⟨b, hb, -, -, hactive⟩ := hjustified.budget rfl
      cases hjustified with
      | @starts row _ _ hrow hdecision hbudget =>
      have hstarts : row.decision i ∈ [some .allowAuto, some .allowNotify] := by
        rw [hdecision]
        cases notify <;> simp
      obtain ⟨hvalid, hperiod, hraced⟩ := htime row hrow hstarts budgetId hbudget b hb
      refine ⟨now, rfl, hcommits.evidenceValid rfl hvalid, ?_⟩
      refine Db.budgetOpen_of_terms (hcommits.budgets budgetId) hb ?_ hperiod
      by_cases hnamed : ∃ c ∈ changes, c.budgetId = budgetId
      · exact hraced hnamed
      · rw [Budget.after_of_unnamed hnamed]
        exact hactive
    | @approves now approvalId reason authorization x _ hrun =>
      obtain ⟨p, status⟩ := x
      obtain ⟨actor, approval, request, payment, budgetId, budget, happroves⟩ :=
        approvePayment_rows hrun
      have hr : r = ⟨budgetId, approval.paymentRequestId, request.amount, budget.currency,
          .reserved⟩ := by
        have hget := Table.get?_of_rows_append happroves.reservations id
        rw [hnew, hold] at hget
        split_ifs at hget
        exact Option.some.inj hget
      subst hr
      obtain ⟨hvalid, hopen⟩ := h (approvePayment_locks hrun) approval happroves.approvals
        happroves.pending happroves.unexpired request happroves.requests
      obtain ⟨hactive, hperiod⟩ := hopen budgetId happroves.selected budget happroves.budgets
      refine ⟨now, rfl, ?_, ?_⟩
      · exact happroves.evidenceValid rfl hvalid
      · exact Db.budgetOpen_of_terms (happroves.budget_terms budgetId) happroves.budgets hactive
          hperiod
    | denies hrun =>
      obtain ⟨actor, approval, request, payment, -, -, -, rfl⟩ := denyPayment_eq_ok hrun
      exact (hkept rfl).elim

/-! ### Runs -/

/-- In a run whose steps are in time, every reservation is controlled when it is committed. -/
theorem run_controlled {env : Env} {s : State} {os : List Operation}
    (hrun : Machine.Along (State.operate env) (fun s o => o.InTime env s) s os) :
    Machine.Along (State.operate env) (fun s o => o.Controlled env s) s os :=
  hrun.mono fun _ _ => State.operate_controlled

/-- 60.0000 -/
def Amount.sixty : Amount := ⟨600000, by decide, by decide⟩

/-- The budget is open until a time, and at 900 a payment of 60 USD is made that starts at once. -/
def Operation.payUntil (stop : Time) : List Operation :=
  .administer [⟨0, true, none, some stop⟩] ::
    (Action.create 0 900 (.sample "key" 60)).map (.act · [])

/-- PostgreSQL. -/
def Env.refusing : Env := { Env.sample with locksOuterJoins := false }

/-- A payment in time. -/
theorem run_controlled_sample :
    Machine.Along (State.operate .refusing) (fun s o => o.Controlled .refusing s)
      (.start (.sample [.sample])) (Operation.payUntil 1000) :=
  run_controlled (by decide +kernel)

/-- The period of the budget ended at 500: the payment of 900 reserves all the same. -/
theorem creation_uncontrolled :
    ¬ Machine.Along (State.operate .refusing) (fun s o => o.Controlled .refusing s)
      (.start (.sample [.sample])) (Operation.payUntil 500) := by
  intro hrun
  obtain ⟨-, -, -, hcontrolled, -⟩ := hrun
  obtain ⟨now, hnow, -, hopen⟩ := hcontrolled 0 ⟨0, 0, .sixty, "USD", .reserved⟩
    (by decide +kernel) (by decide +kernel)
  obtain rfl := Option.some.inj hnow
  revert hopen
  decide +kernel

end AgentPay
