import AgentPay.Decisions

/-!
# Coherent rows

What a payment, its request, the budget it was given and its reservation say of amount, currency
and account agree in every state that the system reaches from before its first payment.
-/

namespace AgentPay

open Support

/-! ### Runs from before the first payment -/

/-- A database before its first payment. -/
structure Db.Fresh (db : Db) : Prop where
  paymentRequests : db.paymentRequests.rows = []
  payments : db.payments.rows = []
  approvals : db.approvals = []
  budgetReservations : db.budgetReservations.rows = []
  providerOperations : db.providerOperations.rows = []
  transactions : db.transactions.rows = []
  ledgerJournals : db.ledgerJournals.rows = []
  outboxEvents : db.outboxEvents = []
  budgetsAgree : db.BudgetsAgree

/-- A state that occurs in a run from before the first payment. -/
def State.Occurs (env : Env) (s : State) : Prop :=
  ∃ (db : Db) (as : List Action), db.Fresh ∧ Machine.run (step env) (.start db) as = s

/-- A table without rows has none to find. -/
lemma Table.get?_of_rows_nil {ρ κ : Type} {key : ρ → Option κ} {t : Table ρ key}
    (h : t.rows = []) (i : ℕ) : t.get? i = none := by
  rw [Table.get?, h]
  rfl

lemma Db.Fresh.blank {db : Db} (h : db.Fresh) : db.Blank where
  sound :=
    { request := fun p payment hp => by
        rw [Table.get?_of_rows_nil h.payments] at hp
        cases hp
      reservation := fun i request r hr => by
        rw [Table.get?_of_rows_nil h.paymentRequests] at hr
        cases hr
      linked := fun r row hr => by
        rw [Table.get?_of_rows_nil h.budgetReservations] at hr
        cases hr
      operation := fun o ho => by
        rw [h.providerOperations] at ho
        cases ho
      transaction := fun t ht => by
        rw [h.transactions] at ht
        cases ht
      journal := fun j hj => by
        rw [h.ledgerJournals] at hj
        cases hj
      approval := fun a ha => by
        rw [h.approvals] at ha
        cases ha }
  approvals := h.approvals
  providerOperations := h.providerOperations
  transactions := h.transactions
  ledgerJournals := h.ledgerJournals

/-- Before the first payment there is no view. -/
lemma Db.Fresh.views {db : Db} (h : db.Fresh) (J : PaymentView → Prop) :
    (State.start db).Views J := by
  refine ⟨h.blank.invariant, fun p v hv => ?_⟩
  obtain ⟨payment, -, hpayment, -⟩ := view_eq_some.mp hv
  exact absurd (hpayment.symm.trans (Table.get?_of_rows_nil h.payments p)) (Option.some_ne_none _)

lemma Db.sample_fresh (rules : List SpendingPolicy) : (sample rules).Fresh :=
  ⟨rfl, rfl, rfl, rfl, rfl, rfl, rfl, rfl, sample_budgetsAgree rules⟩

namespace State.Occurs

variable {env : Env} {s : State}

lemma reachable (h : s.Occurs env) : s.Reachable env := by
  obtain ⟨db, as, hfresh, rfl⟩ := h
  exact ⟨db, as, hfresh.blank, hfresh.budgetsAgree, rfl⟩

lemma step (h : s.Occurs env) (a : Action) : (s.step env a).Occurs env := by
  obtain ⟨db, as, hfresh, rfl⟩ := h
  exact ⟨db, as ++ [a], hfresh, Machine.run_concat ..⟩

lemma run (h : s.Occurs env) (as : List Action) :
    (Machine.run (State.step env) s as).Occurs env :=
  Machine.run_invariant (I := fun s : State => s.Occurs env) (fun _ a hs => hs.step a) h as

/-- What holds before the first payment and is kept by every step of a state that occurs, holds of
every state that occurs. -/
theorem invariant {I : State → Prop} (hstart : ∀ db, db.Fresh → I (.start db))
    (hstep : ∀ s a, s.Occurs env → I s → I (s.step env a)) (h : s.Occurs env) : I s := by
  obtain ⟨db, as, hfresh, rfl⟩ := h
  have hboth (s : State) (a : Action) (hs : s.Occurs env ∧ I s) :
      (s.step env a).Occurs env ∧ I (s.step env a) := ⟨hs.1.step a, hstep s a hs.1 hs.2⟩
  exact (Machine.run_invariant hboth ⟨⟨db, [], hfresh, rfl⟩, hstart db hfresh⟩ as).2

/-- What holds of created payments, and is kept by the machine, holds of every payment. -/
theorem views {J : PaymentView → Prop} (hcreated : ∀ v, v.Created → J v)
    (hstep : ∀ op v v', v.Regular → J v → PaymentStep op v v' → J v') (h : s.Occurs env) :
    s.Views J :=
  h.invariant (I := State.Views J) (fun _ hfresh => hfresh.views J) fun _ _ _ hviews =>
    State.step_views (C := fun _ _ => True) hcreated
      (fun op v v' hreg hv _ => hstep op v v' hreg hv) hviews fun _ _ _ _ => trivial

/-- What the machine keeps of the view of a payment, every run keeps. -/
lemma keeps {J : PaymentView → Prop}
    (hstep : ∀ op v v', v.Regular → J v → PaymentStep op v v' → J v') (h : s.Occurs env)
    {p : PaymentId} (hv : ∃ v, view s.db p = some v ∧ J v) (as : List Action) :
    ∃ v, view (Machine.run (State.step env) s as).db p = some v ∧ J v := by
  have hkept (s : State) (a : Action) (hs : s.Occurs env ∧ ∃ v, view s.db p = some v ∧ J v) :
      (s.step env a).Occurs env ∧ ∃ v, view (s.step env a).db p = some v ∧ J v := by
    obtain ⟨hs, v, hv, hJ⟩ := hs
    have hinvariant := hs.reachable.invariant
    refine ⟨hs.step a, ?_⟩
    obtain ⟨v', hv', rfl | ⟨op, -, hmoves⟩⟩ :=
      (State.step_follows hinvariant env a).view_some hv
    · exact ⟨_, hv', hJ⟩
    · exact ⟨v', hv', hstep op v v' (hinvariant.regular p v hv) hJ hmoves⟩
  exact (Machine.run_invariant hkept ⟨h, hv⟩ as).2

end State.Occurs

/-! ### Coherence -/

/-- Payments, requests, budgets and reservations agree. -/
structure Db.Coherent (db : Db) : Prop where
  payment : ∀ p payment request, db.payments.get? p = some payment →
    db.paymentRequests.get? payment.paymentRequestId = some request →
    payment.amount = request.amount ∧ payment.currency = request.currency
  budget : ∀ i request b, db.paymentRequests.get? i = some request → request.budgetId = some b →
    ∃ budget, db.budgets[b]? = some budget ∧ budget.accountId = request.accountId ∧
      budget.currency = request.currency
  reservation : ∀ i request r row, db.paymentRequests.get? i = some request →
    request.budgetReservationId = some r → db.budgetReservations.get? r = some row →
    request.budgetId = some row.budgetId ∧ row.amount = request.amount ∧
      row.currency = request.currency

/-- The columns of a request that coherence reads. -/
def PaymentRequest.terms (r : PaymentRequest) :
    String × Amount × String × Option BudgetId × Option ReservationId :=
  (r.accountId, r.amount, r.currency, r.budgetId, r.budgetReservationId)


/-- A row that is updated outside the columns of `f` is still there. -/
lemma exists_of_map_eq {ρ τ : Type} {f : ρ → τ} {o o' : Option ρ} (h : o'.map f = o.map f) {r : ρ}
    (hr : o = some r) : ∃ r', o' = some r' ∧ f r' = f r := by
  rw [hr, Option.map_some, Option.map_eq_some_iff] at h
  exact h

/-- Rows that are appended leave the older ones where they are. -/
lemma Table.get?_append_lt {ρ κ : Type} {key : ρ → Option κ} {t t' : Table ρ key} {rows : List ρ}
    (h : t'.rows = t.rows ++ rows) {i : ℕ} (hi : i < t.nextId) : t'.get? i = t.get? i := by
  rw [Table.get?, Table.get?, h]
  exact List.getElem?_append_left hi

lemma Table.get?_append_nextId {ρ κ : Type} {key : ρ → Option κ} {t t' : Table ρ key}
    {rows : List ρ} (h : t'.rows = t.rows ++ rows) : t'.get? t.nextId = rows[0]? := by
  rw [Table.get?, h, Table.nextId, List.getElem?_append_right (le_refl t.rows.length)]
  exact congrArg (rows[·]?) (Nat.sub_self _)

namespace Db.Coherent

variable {db db' : Db}

/-- Coherence is a matter of these columns. -/
lemma of_terms (h : db.Coherent)
    (hpayments : ∀ p, (db'.payments.get? p).map Payment.terms =
      (db.payments.get? p).map Payment.terms)
    (hrequests : ∀ i, (db'.paymentRequests.get? i).map PaymentRequest.terms =
      (db.paymentRequests.get? i).map PaymentRequest.terms)
    (hbudgets : ∀ b : BudgetId, (db'.budgets[b]?).map Budget.terms =
      (db.budgets[b]?).map Budget.terms)
    (hreservations : ∀ r, (db'.budgetReservations.get? r).map BudgetReservation.terms =
      (db.budgetReservations.get? r).map BudgetReservation.terms) : db'.Coherent where
  payment p payment request hp hr := by
    obtain ⟨payment₀, hp₀, hterms⟩ := exists_of_map_eq (hpayments p).symm hp
    obtain ⟨request₀, hr₀, hterms'⟩ := exists_of_map_eq (hrequests _).symm hr
    simp only [Payment.terms, PaymentRequest.terms, Prod.mk.injEq] at hterms hterms'
    rw [← hterms.1] at hr₀
    obtain ⟨hamount, hcurrency⟩ := h.payment p payment₀ request₀ hp₀ hr₀
    exact ⟨by rw [← hterms.2.1, hamount, hterms'.2.1],
      by rw [← hterms.2.2, hcurrency, hterms'.2.2.1]⟩
  budget i request b hr hb := by
    obtain ⟨request₀, hr₀, hterms⟩ := exists_of_map_eq (hrequests i).symm hr
    simp only [PaymentRequest.terms, Prod.mk.injEq] at hterms
    obtain ⟨budget₀, hb₀, haccount, hcurrency⟩ :=
      h.budget i request₀ b hr₀ (hterms.2.2.2.1.trans hb)
    obtain ⟨budget, hb', hsame⟩ := exists_of_map_eq (hbudgets b) hb₀
    simp only [Budget.terms, Prod.mk.injEq] at hsame
    exact ⟨budget, hb', by rw [hsame.1, haccount, hterms.1],
      by rw [hsame.2.2.1, hcurrency, hterms.2.2.1]⟩
  reservation i request r row hr hlink hrow := by
    obtain ⟨request₀, hr₀, hterms⟩ := exists_of_map_eq (hrequests i).symm hr
    obtain ⟨row₀, hrow₀, hsame⟩ := exists_of_map_eq (hreservations r).symm hrow
    simp only [PaymentRequest.terms, BudgetReservation.terms, Prod.mk.injEq] at hterms hsame
    obtain ⟨hb, hamount, hcurrency⟩ :=
      h.reservation i request₀ r row₀ hr₀ (hterms.2.2.2.2.trans hlink) hrow₀
    exact ⟨by rw [← hterms.2.2.2.1, hb, hsame.1], by rw [← hsame.2.2.1, hamount, hterms.2.1],
      by rw [← hsame.2.2.2, hcurrency, hterms.2.2.1]⟩

lemma executes {events : List OutboxEvent} (h : db.Coherent) (hexecutes : Executes events db db') :
    db'.Coherent := by
  have hrequests : db'.paymentRequests = db.paymentRequests :=
    congrArg Decisions.paymentRequests hexecutes.decisions
  exact h.of_terms hexecutes.payments (fun i => by rw [hrequests]) hexecutes.budgets
    hexecutes.reservations

/-- The rows of a new payment agree. -/
lemma commits {env : Env} {now : Time} {i : Intake} {v : Verdict} {amount : Amount}
    {merchantId : Option MerchantId} (h : db.Coherent) (hsound : db.Sound)
    (hjustified : v.Justified db i) (hcommits : v.Commits env now db i amount merchantId db') :
    db'.Coherent where
  payment p payment request hp hr := by
    rw [Table.get?_of_rows_append hcommits.payments] at hp
    split_ifs at hp with hnew
    · obtain rfl := Option.some.inj hp
      have hr' := Table.get?_of_rows_append hcommits.requests db.paymentRequests.nextId
      rw [if_pos rfl] at hr'
      obtain rfl := Option.some.inj (hr'.symm.trans hr)
      exact ⟨rfl, rfl⟩
    · obtain ⟨request₀, hr₀⟩ := hsound.request p payment hp
      rw [Table.get?_append_lt hcommits.requests (Table.get?_lt hr₀)] at hr
      exact h.payment p payment request hp hr
  budget j request b hr hb := by
    have hselected : ∃ budget, db.budgets[b]? = some budget ∧
        budget.accountId = request.accountId ∧ budget.currency = request.currency := by
      rw [Table.get?_of_rows_append hcommits.requests] at hr
      split_ifs at hr with hnew
      · obtain rfl := Option.some.inj hr
        obtain ⟨budget, hbudget, haccount, hcurrency, -⟩ := hjustified.budget hb
        exact ⟨budget, hbudget, haccount, hcurrency⟩
      · exact h.budget j request b hr hb
    obtain ⟨budget₀, hbudget₀, haccount, hcurrency⟩ := hselected
    obtain ⟨budget, hbudget, hterms⟩ := exists_of_map_eq (hcommits.budgets b) hbudget₀
    simp only [Budget.terms, Prod.mk.injEq] at hterms
    exact ⟨budget, hbudget, hterms.1.trans haccount, hterms.2.2.1.trans hcurrency⟩
  reservation j request r row hr hlink hrow := by
    rw [Table.get?_of_rows_append hcommits.requests] at hr
    split_ifs at hr with hnew
    · obtain rfl := Option.some.inj hr
      cases v with
      | denied | unfunded | waits => cases hlink
      | starts notify versionId b =>
        obtain rfl := Option.some.inj hlink
        rw [Table.get?_append_nextId hcommits.reservations] at hrow
        obtain rfl := Option.some.inj hrow
        exact ⟨rfl, rfl, rfl⟩
    · obtain ⟨row₀, hrow₀, -⟩ := hsound.reservation j request r hr hlink
      rw [Table.get?_append_lt hcommits.reservations (Table.get?_lt hrow₀)] at hrow
      exact h.reservation j request r row hr hlink hrow

/-- An approval links its request with a reservation that agrees with it. -/
lemma approves {env : Env} {now : Time} {id : ApprovalId} {reason : Option String} {actor : String}
    {approval : Approval} {request : PaymentRequest} {payment : Payment} {budgetId : BudgetId}
    {budget : Budget} {p : PaymentId} (h : db.Coherent) (hsound : db.Sound)
    (happroves : Approves env now db id reason actor approval request payment budgetId budget p
      db') : db'.Coherent where
  payment q payment' request' hp hr := by
    have hp' := (happroves.payment_terms q).symm
    obtain ⟨payment₀, hp₀, hterms⟩ := exists_of_map_eq hp' hp
    obtain ⟨request₀, hr₀, hcase⟩ := happroves.request_some hr
    simp only [Payment.terms, Prod.mk.injEq] at hterms
    rw [← hterms.1] at hr₀
    obtain ⟨hamount, hcurrency⟩ := h.payment q payment₀ request₀ hp₀ hr₀
    rcases hcase with ⟨-, rfl⟩ | ⟨-, -, rfl⟩
    · exact ⟨hterms.2.1.symm.trans hamount, hterms.2.2.symm.trans hcurrency⟩
    · exact ⟨hterms.2.1.symm.trans hamount, hterms.2.2.symm.trans hcurrency⟩
  budget j request' b hr hb := by
    have hkept : ∃ budget, db.budgets[b]? = some budget ∧
        budget.accountId = request'.accountId ∧ budget.currency = request'.currency := by
      obtain ⟨request₀, hr₀, ⟨-, rfl⟩ | ⟨-, -, rfl⟩⟩ := happroves.request_some hr
      · exact h.budget j _ b hr₀ hb
      · exact h.budget j request₀ b hr₀ hb
    obtain ⟨budget₀, hbudget₀, haccount, hcurrency⟩ := hkept
    obtain ⟨budget', hbudget', hterms⟩ := exists_of_map_eq (happroves.budget_terms b) hbudget₀
    simp only [Budget.terms, Prod.mk.injEq] at hterms
    exact ⟨budget', hbudget', hterms.1.trans haccount, hterms.2.2.1.trans hcurrency⟩
  reservation j request' r row hr hlink hrow := by
    obtain ⟨request₀, hr₀, ⟨-, rfl⟩ | ⟨-, rfl, rfl⟩⟩ := happroves.request_some hr
    · obtain ⟨row₀, hrow₀, -⟩ := hsound.reservation j _ r hr₀ hlink
      rw [Table.get?_append_lt happroves.reservations (Table.get?_lt hrow₀)] at hrow
      exact h.reservation j _ r row hr₀ hlink hrow
    · obtain rfl := Option.some.inj hlink
      rw [Table.get?_append_nextId happroves.reservations] at hrow
      obtain rfl := Option.some.inj hrow
      obtain ⟨budget', hbudget', -, hcurrency⟩ := h.budget j _ budgetId hr₀ happroves.selected
      obtain rfl := Option.some.inj (happroves.budgets.symm.trans hbudget')
      exact ⟨happroves.selected, rfl, hcurrency⟩

/-- A denial rewrites the approval and the status of the payment. -/
lemma denies {env : Env} {id : ApprovalId} {reason authorization : Option String}
    {x : PaymentId × PaymentStatus} (h : db.Coherent)
    (hrun : denyPayment env db id reason authorization = .ok (x, db')) : db'.Coherent := by
  obtain ⟨p, status⟩ := x
  obtain ⟨actor, approval, request, payment, -, -, -, rfl⟩ := denyPayment_eq_ok hrun
  have hexecutes := Executes.updateStatus (ControlRepository.setApproval db id .denied actor reason)
    p .failed none
  exact h.of_terms hexecutes.payments (fun _ => rfl) (fun _ => rfl) fun _ => rfl

/-- A step of the system keeps coherence. -/
lemma step {env : Env} {s : State} (h : s.db.Coherent) (hsound : s.db.Sound) (a : Action) :
    (s.step env a).db.Coherent := by
  have hwrites := State.step_writes env s a
  generalize (s.step env a).db = db at hwrites
  cases hwrites with
  | nothing => exact h
  | configures c =>
    exact h.of_terms (fun _ => rfl) (fun _ => rfl) (fun _ => rfl) fun _ => rfl
  | executes _ hexecutes | finalizes _ hexecutes => exact h.executes hexecutes
  | replays i added =>
    exact h.of_terms (fun _ => rfl) (fun _ => rfl) (fun _ => rfl) fun _ => rfl
  | accepts hcreation hopens hdecides =>
    obtain ⟨v, hjustified, hcommits, -⟩ := hopens.decided hdecides
    exact h.commits hsound hjustified hcommits
  | @approves now id reason authorization x db hrun =>
    obtain ⟨p, status⟩ := x
    obtain ⟨actor, approval, request, payment, budgetId, budget, happroves⟩ :=
      approvePayment_rows hrun
    exact h.approves hsound happroves
  | denies hrun => exact h.denies hrun

end Db.Coherent

/-- The rows of every state that occurs agree. -/
theorem State.Occurs.coherent {env : Env} {s : State} (h : s.Occurs env) : s.db.Coherent := by
  refine h.invariant (I := fun s => s.db.Coherent) (fun db hfresh => ?_) fun s a hs hcoherent =>
    hcoherent.step hs.reachable.invariant.sound a
  have hnone (i : RequestId) : db.paymentRequests.get? i = none :=
    Table.get?_of_rows_nil hfresh.paymentRequests i
  constructor
  · intro p payment request hp hr
    exact absurd (hr.symm.trans (hnone _)) (Option.some_ne_none _)
  · intro i request b hr
    exact absurd (hr.symm.trans (hnone _)) (Option.some_ne_none _)
  · intro i request r row hr
    exact absurd (hr.symm.trans (hnone _)) (Option.some_ne_none _)

/-! ### New payments -/

/-- The intake that a step decides. -/
def State.deciding (s : State) : Action → Option Intake
  | .commitPayment c _ =>
    match s.creations[c]? with
    | some (.inserted i) => some i
    | _                  => none
  | _ => none

lemma State.deciding_commitPayment {s : State} {c : ℕ} {i : Intake}
    (h : s.creations[c]? = some (.inserted i)) (now : Time) :
    s.deciding (.commitPayment c now) = some i := by
  simp [deciding, h]

/-- A payment that a step inserts is the one whose intake it decides. -/
theorem State.step_created {env : Env} {s : State} {a : Action} {payment : Payment}
    (hnew : (s.step env a).db.payments.get? s.db.payments.nextId = some payment) :
    ∃ c now i v amount merchantId, a = .commitPayment c now ∧ s.deciding a = some i ∧
      Verdict.Justified s.db i v ∧
      v.Commits env now s.db i amount merchantId (s.step env a).db := by
  have hwrites := step_writes env s a
  generalize (s.step env a).db = db at hwrites hnew
  have hnone : s.db.payments.get? s.db.payments.nextId = none := List.getElem?_eq_none (le_refl _)
  have hkept {db : Db} (hnew : db.payments.get? s.db.payments.nextId = some payment)
      (hterms : (db.payments.get? s.db.payments.nextId).map Payment.terms =
        (s.db.payments.get? s.db.payments.nextId).map Payment.terms) : False := by
    rw [hnew, hnone] at hterms
    cases hterms
  cases hwrites with
  | nothing | configures | replays => exact (hkept hnew rfl).elim
  | executes _ hexecutes | finalizes _ hexecutes =>
    exact (hkept hnew (hexecutes.payments _)).elim
  | @accepts now c i amount merchantId opened outcome _ hcreation hopens hdecides =>
    obtain ⟨v, hjustified, hcommits, -⟩ := hopens.decided hdecides
    exact ⟨c, now, i, v, amount, merchantId, rfl, deciding_commitPayment hcreation now, hjustified,
      hcommits⟩
  | @approves now id reason authorization x _ hrun =>
    obtain ⟨p, status⟩ := x
    obtain ⟨actor, approval, request, payment, budgetId, budget, happroves⟩ :=
      approvePayment_rows hrun
    exact (hkept hnew (happroves.payment_terms _)).elim
  | @denies id reason authorization x _ hrun =>
    obtain ⟨p, status⟩ := x
    obtain ⟨actor, approval, request, payment, -, -, -, rfl⟩ := denyPayment_eq_ok hrun
    exact (hkept hnew ((Executes.updateStatus (ControlRepository.setApproval s.db id .denied actor
      reason) p .failed none).payments _)).elim

end AgentPay
