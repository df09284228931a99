import AgentPay.Agreement
import AgentPay.Coherence
import AgentPay.Support.Links

/-!
# What a budget has paid for

A budget counts its reservations, and the ledger the captures; the two meet only in the status of
a reservation. In every state that the system reaches from before its first payment, the captures
of the payments that a budget funds are what it has consumed and the captures of payments whose
reservation it has taken back. A run that captures no such payment keeps the captures of every
budget within its limit.
-/

namespace AgentPay

open Support

/-! ### Payments and their requests -/

/-- A payment is inserted with its request, so the two have one id. -/
def Db.Paired (db : Db) : Prop :=
  ∀ i, (db.payments.get? i).map (·.paymentRequestId) = (db.paymentRequests.get? i).map fun _ => i

/-- The next id is the first without a row. -/
lemma Table.nextId_eq_of_isSome {ρ κ ρ' κ' : Type} {key : ρ → Option κ} {key' : ρ' → Option κ'}
    {t : Table ρ key} {t' : Table ρ' key'} (h : ∀ i, (t.get? i).isSome = (t'.get? i).isSome) :
    t.nextId = t'.nextId := by
  have hlt (i : ℕ) : i < t.nextId ↔ i < t'.nextId := by
    have hi := h i
    rw [Bool.eq_iff_iff, Option.isSome_iff_ne_none, Option.isSome_iff_ne_none] at hi
    rw [Table.get?, Table.get?, ne_eq, List.getElem?_eq_none_iff, ne_eq,
      List.getElem?_eq_none_iff, not_le, not_le] at hi
    exact hi
  exact Nat.le_antisymm (Nat.le_of_not_lt fun h => Nat.lt_irrefl _ ((hlt _).mp h))
    (Nat.le_of_not_lt fun h => Nat.lt_irrefl _ ((hlt _).mpr h))

namespace Db.Paired

variable {db db' : Db}

lemma isSome (h : db.Paired) (i : ℕ) :
    (db.payments.get? i).isSome = (db.paymentRequests.get? i).isSome := by
  simpa using congrArg Option.isSome (h i)

lemma nextId (h : db.Paired) : db.payments.nextId = db.paymentRequests.nextId :=
  Table.nextId_eq_of_isSome h.isSome

/-- Neither table has lost or won a row. -/
lemma of_terms (h : db.Paired)
    (hpayments : ∀ p, (db'.payments.get? p).map Payment.terms =
      (db.payments.get? p).map Payment.terms)
    (hrequests : ∀ i, (db'.paymentRequests.get? i).isSome = (db.paymentRequests.get? i).isSome) :
    db'.Paired := by
  intro i
  have hterms := congrArg (Option.map Prod.fst) (hpayments i)
  simp only [Option.map_map] at hterms
  have hsame : (db'.paymentRequests.get? i).map (fun _ => i) =
      (db.paymentRequests.get? i).map fun _ => i := by
    have := hrequests i
    cases hr : db.paymentRequests.get? i <;> cases hr' : db'.paymentRequests.get? i <;>
      simp_all
  exact hterms.trans ((h i).trans hsame.symm)

lemma commits {env : Env} {now : Time} {i : Intake} {v : Verdict} {amount : Amount}
    {merchantId : Option MerchantId} (h : db.Paired)
    (hcommits : v.Commits env now db i amount merchantId db') : db'.Paired := by
  intro j
  rw [Table.get?_of_rows_append hcommits.payments, Table.get?_of_rows_append hcommits.requests,
    h.nextId]
  split_ifs with hj
  · rw [hj]
    rfl
  · exact h j

lemma step {env : Env} {s : State} (h : s.db.Paired) (a : Action) : (s.step env a).db.Paired := by
  have hwrites := State.step_writes env s a
  generalize (s.step env a).db = db at hwrites
  cases hwrites with
  | nothing => exact h
  | configures c => exact h.of_terms (fun _ => rfl) fun _ => rfl
  | executes _ hexecutes | finalizes _ hexecutes =>
    have hrequests : db.paymentRequests = s.db.paymentRequests :=
      congrArg Decisions.paymentRequests hexecutes.decisions
    exact h.of_terms hexecutes.payments fun i => by rw [hrequests]
  | replays i added => exact h.of_terms (fun _ => rfl) fun _ => rfl
  | accepts hcreation hopens hdecides =>
    obtain ⟨v, -, hcommits, -⟩ := hopens.decided hdecides
    exact h.commits hcommits
  | @approves now id reason authorization x db hrun =>
    obtain ⟨p, status⟩ := x
    obtain ⟨actor, approval, request, payment, budgetId, budget, happroves⟩ :=
      approvePayment_rows hrun
    refine h.of_terms happroves.payment_terms fun i => ?_
    rw [happroves.request_get?]
    split_ifs with hi
    · rw [← hi, happroves.requests]
      rfl
    · rfl
  | @denies id reason authorization x db hrun =>
    obtain ⟨p, status⟩ := x
    obtain ⟨actor, approval, request, payment, -, -, -, rfl⟩ := denyPayment_eq_ok hrun
    exact h.of_terms (Executes.updateStatus (ControlRepository.setApproval s.db id .denied actor
      reason) p .failed none).payments fun _ => rfl

end Db.Paired

/-- Payments and requests are paired in every state that occurs. -/
lemma State.Occurs.paired {env : Env} {s : State} (h : s.Occurs env) : s.db.Paired := by
  refine h.invariant (I := fun s => s.db.Paired) (fun db hfresh i => ?_) fun s a _ hpaired =>
    hpaired.step a
  show (db.payments.get? i).map _ = (db.paymentRequests.get? i).map _
  rw [Table.get?_of_rows_nil hfresh.payments, Table.get?_of_rows_nil hfresh.paymentRequests]
  rfl

/-! ### One payment -/

/-- What is captured of a payment is debited once, and a captured payment has a reservation that is
decided. -/
structure PaymentView.Accounted (v : PaymentView) : Prop where
  unauthorized : v.status ≠ .authorized
  debited : v.journals.debited = if v.journals.capture then v.amount.units else 0
  captured : v.journals.capture = true → ∃ r s, v.reservation = some (r, s) ∧ s ≠ .reserved
  consumed : ∀ r, v.reservation = some (r, .consumed) → v.journals.capture = true

/-- A success does not come to a payment whose reservation was taken back. -/
def PaymentOp.KeepsReleased (op : PaymentOp) (v : PaymentView) : Prop :=
  op.decides v = some .consumed → ∀ r ∈ v.reservation, r.2 ≠ .released

instance (op : PaymentOp) (v : PaymentView) : Decidable (op.KeepsReleased v) := by
  unfold PaymentOp.KeepsReleased
  infer_instance

/-- The payment is captured and its reservation RELEASED. -/
def PaymentView.Overdrawn (v : PaymentView) : Prop :=
  v.journals.capture = true ∧ v.reservation.map (·.2) = some .released

instance (v : PaymentView) : Decidable v.Overdrawn := inferInstanceAs (Decidable (_ ∧ _))

namespace PaymentView

variable {v v' : PaymentView} {op : PaymentOp}

lemma Created.accounted (h : v.Created) : v.Accounted := by
  have hjournals := h.journals
  constructor
  · rcases h.state with ⟨hs, -⟩ | ⟨hs, -⟩ | ⟨hs, -⟩ <;> rw [hs] <;> decide
  · simp [hjournals, JournalView.empty]
  · simp [hjournals, JournalView.empty]
  · intro r hr
    rcases h.state with ⟨-, hnone, -⟩ | ⟨-, hnone, -⟩ | ⟨-, -, id, hsome⟩ <;> simp_all

lemma Created.not_overdrawn (h : v.Created) : ¬ v.Overdrawn := by
  rintro ⟨hcapture, -⟩
  rw [h.journals] at hcapture
  cases hcapture

namespace Accounted

/-- What is debited is consumed or overdrawn. -/
lemma debited_eq (h : v.Accounted) {r : ReservationId} {s : ReservationStatus}
    (hres : v.reservation = some (r, s)) :
    v.journals.debited = (if s = .consumed then v.amount.units else 0) +
      if v.Overdrawn then v.amount.units else 0 := by
  have hover : v.Overdrawn ↔ v.journals.capture = true ∧ s = .released := by
    simp [Overdrawn, hres]
  rw [h.debited]
  by_cases hcapture : v.journals.capture = true
  · obtain ⟨r', s', hres', hs⟩ := h.captured hcapture
    obtain ⟨rfl, rfl⟩ := Prod.mk.inj (Option.some.inj (hres'.symm.trans hres))
    cases s' with
    | reserved => exact absurd rfl hs
    | consumed | released => simp [hcapture, hover]
  · have hs : s ≠ .consumed := fun hs => hcapture (h.consumed r (hs ▸ hres))
    simp [hcapture, hover, hs]

/-- Nothing but the status, the charge and the transactions changes. -/
lemma congr {w : PaymentView} (h : v.Accounted) (hstatus : w.status ≠ .authorized)
    (hamount : w.amount = v.amount) (hres : w.reservation = v.reservation)
    (hcapture : w.journals.capture = v.journals.capture)
    (hdebited : w.journals.debited = v.journals.debited) : w.Accounted where
  unauthorized := hstatus
  debited := by rw [hdebited, hcapture, hamount, h.debited]
  captured hc := by rw [hres]; exact h.captured (hcapture ▸ hc)
  consumed r hr := by rw [hcapture]; exact h.consumed r (hres ▸ hr)

lemma fail (h : v.Accounted) : v.fail.Accounted where
  unauthorized := nofun
  debited := h.debited
  captured hc := by
    obtain ⟨r, s, hres, hs⟩ := h.captured hc
    refine ⟨r, s, ?_, hs⟩
    simp [PaymentView.fail, hres, ReservationStatus.settle, hs]
  consumed r hr := by
    obtain ⟨⟨r', s⟩, hres, heq⟩ := Option.map_eq_some_iff.mp hr
    unfold ReservationStatus.settle at heq
    split_ifs at heq with hs
    · cases heq
    · obtain ⟨rfl, rfl⟩ := Prod.mk.inj heq
      exact h.consumed _ hres

lemma succeed (h : v.Accounted) (path : CapturePath) (hres : v.reservation.isSome) :
    (v.succeed path).Accounted where
  unauthorized := nofun
  debited := by
    show (v.journals.postCapture v.amount).debited =
      if (v.journals.postCapture v.amount).capture then v.amount.units else 0
    have hdebited := h.debited
    unfold JournalView.postCapture
    by_cases hcapture : v.journals.capture
    · simpa [hcapture] using hdebited
    · simpa [hcapture] using hdebited
  captured _ := by
    obtain ⟨⟨r, s⟩, hr⟩ := Option.isSome_iff_exists.mp hres
    refine ⟨r, s.settle .consumed, by simp [PaymentView.succeed, hr], ?_⟩
    unfold ReservationStatus.settle
    split_ifs with hs
    · decide
    · exact hs
  consumed _ _ := by
    show (v.journals.postCapture v.amount).capture = true
    unfold JournalView.postCapture
    split_ifs with hcapture
    · exact hcapture
    · rfl

/-- Whatever the machine does, except to an AUTHORIZED payment. -/
lemma step (h : v.Accounted) (hreg : v.Regular) (hstep : PaymentStep op v v') : v'.Accounted := by
  cases hstep with
  | mark => exact h.congr (by rintro ⟨⟩) rfl rfl rfl rfl
  | finalizeUnknown => exact h.congr (by rintro ⟨⟩) rfl rfl rfl rfl
  | finalizeFailed | eventFailed => exact h.fail
  | finalizeSucceeded _ _ hres => exact h.succeed .direct hres
  | eventSucceeded _ _ hres => exact h.succeed .event hres
  | captureUnknown ha | captureFailed ha | captureSucceeded ha | voidUnknown ha | voidFailed ha
  | voidSucceeded ha => exact absurd ha h.unauthorized
  | refundUnknown | refundFailed => exact h.congr (by rintro ⟨⟩) rfl rfl rfl rfl
  | refundSucceeded hrefund =>
    refine h.congr ?_ rfl rfl ?_ ?_
    · simp only [postRefund, putRefund]
      split_ifs <;> decide
    all_goals
      simp only [postRefund, JournalView.postRefund]
      split_ifs <;> rfl
  | approve hpending _ id =>
    have hnone := (hreg.waiting hpending).2
    have huncaptured : ¬ v.journals.capture = true := fun hc => by
      obtain ⟨r, s, hres, -⟩ := h.captured hc
      rw [hnone] at hres
      cases hres
    exact ⟨by rintro ⟨⟩, h.debited, fun hc => absurd hc huncaptured, by rintro _ ⟨⟩⟩
  | deny => exact h.congr (by rintro ⟨⟩) rfl rfl rfl rfl

end Accounted

/-- A step that does not capture on a released reservation overdraws nothing. -/
lemma Accounted.not_overdrawn_step (h : v.Accounted) (hnot : ¬ v.Overdrawn)
    (hkeeps : op.KeepsReleased v) (hstep : PaymentStep op v v') : ¬ v'.Overdrawn := by
  rintro ⟨hcapture, hreleased⟩
  obtain ⟨⟨r, s⟩, hres', rfl : s = .released⟩ := Option.map_eq_some_iff.mp hreleased
  have hkept (hres : v'.reservation = v.reservation)
      (hc : v'.journals.capture = true → v.journals.capture = true) : False :=
    hnot ⟨hc hcapture, by rw [← hres, hres']; rfl⟩
  have hsucceeds (path : CapturePath) (hw : v' = v.succeed path)
      (hdecides : op.decides v = some .consumed) : False := by
    rw [hw] at hres'
    obtain ⟨⟨r', s'⟩, hres, heq⟩ := Option.map_eq_some_iff.mp hres'
    unfold ReservationStatus.settle at heq
    split_ifs at heq with hs
    · cases heq
    · obtain ⟨rfl, rfl⟩ := Prod.mk.inj heq
      exact hkeeps hdecides _ hres rfl
  have hfails (hw : v' = v.fail) : False := by
    rw [hw] at hres' hcapture
    obtain ⟨r', s', hres, hs'⟩ := h.captured hcapture
    refine hnot ⟨hcapture, ?_⟩
    simp only [PaymentView.fail, hres, Option.map_some, ReservationStatus.settle, if_neg hs',
      Option.some.injEq, Prod.mk.injEq] at hres'
    rw [hres, ← hres'.2]
    rfl
  cases hstep with
  | mark | finalizeUnknown | refundUnknown | refundFailed | deny => exact hkept rfl id
  | finalizeFailed | eventFailed => exact hfails rfl
  | finalizeSucceeded hexec => exact hsucceeds .direct rfl (if_pos hexec)
  | eventSucceeded hopen => exact hsucceeds .event rfl (if_pos hopen)
  | captureUnknown ha | captureFailed ha | captureSucceeded ha | voidUnknown ha | voidFailed ha
  | voidSucceeded ha => exact absurd ha h.unauthorized
  | refundSucceeded =>
    refine hkept rfl fun hc => ?_
    simp only [postRefund, JournalView.postRefund] at hc
    split_ifs at hc <;> exact hc
  | approve => cases hres'

end PaymentView

/-! ### Rows and payments -/

/-- The reservation that the request of a payment links. -/
def reservationIdOf (db : Db) (p : PaymentId) : Option ReservationId := do
  let payment ← db.payments.get? p
  let request ← db.paymentRequests.get? payment.paymentRequestId
  request.budgetReservationId

def reservationOf (db : Db) (p : PaymentId) : Option BudgetReservation :=
  (reservationIdOf db p).bind db.budgetReservations.get?

/-- The budget that funds a payment. -/
def budgetOf (db : Db) (p : PaymentId) : Option BudgetId := (reservationOf db p).map (·.budgetId)

/-- What the capture journals of the payments that a budget funds debit. -/
def debitedFrom (db : Db) (b : BudgetId) : ℕ :=
  (db.ledgerJournals.rows.map fun j =>
    match j.idempotencyKey with
    | .capture p    => if budgetOf db p = some b then j.total .debit else 0
    | .refund _ _ _ => 0).sum

/-- The amounts of the payments that a budget funds and that are captured with their reservation
RELEASED. -/
def overdrawnFrom (db : Db) (b : BudgetId) : ℕ :=
  ∑ p ∈ Finset.range db.payments.nextId,
    if budgetOf db p = some b then
      (view db p).elim 0 fun v => if v.Overdrawn then v.amount.units else 0
    else 0

section Totals

variable {db : Db}

/-- The row that a request links belongs to the payment of that request, and to no other. -/
lemma reservationIdOf_iff (hsound : db.Sound) (hpaired : db.Paired) {r : ReservationId}
    {row : BudgetReservation} (hrow : db.budgetReservations.get? r = some row) (p : PaymentId) :
    reservationIdOf db p = some r ↔ p = row.paymentRequestId := by
  have hp := hpaired p
  constructor
  · intro hlink
    obtain ⟨payment, hpayment, hlink⟩ := Option.bind_eq_some_iff.mp hlink
    obtain ⟨request, hrequest, hlink⟩ := Option.bind_eq_some_iff.mp hlink
    obtain ⟨row', hrow', howner⟩ := hsound.reservation _ request r hrequest hlink
    obtain rfl := Option.some.inj (hrow'.symm.trans hrow)
    rw [hpayment, Option.map_some, eq_comm, Option.map_eq_some_iff] at hp
    obtain ⟨-, -, hown⟩ := hp
    rw [howner, ← hown]
  · rintro rfl
    obtain ⟨request, hrequest, hlink⟩ := hsound.linked r row hrow
    rw [hrequest, Option.map_some, Option.map_eq_some_iff] at hp
    obtain ⟨payment, hpayment, hown⟩ := hp
    simp [reservationIdOf, hpayment, hown, hrequest, hlink]

/-- A sum over the reservations is a sum over the payments that have one. -/
lemma sum_reservations (hsound : db.Sound) (hpaired : db.Paired) (g : BudgetReservation → ℕ) :
    (db.budgetReservations.rows.map g).sum =
      ∑ p ∈ Finset.range db.payments.nextId, (reservationOf db p).elim 0 g := by
  have hlinked : Linked (Finset.range db.payments.nextId) (reservationIdOf db)
      db.budgetReservations.rows.length := by
    intro r hr
    have hrow : db.budgetReservations.get? r = some db.budgetReservations.rows[r] :=
      List.getElem?_eq_getElem hr
    obtain ⟨payment, hpayment, -⟩ :=
      Option.bind_eq_some_iff.mp ((reservationIdOf_iff hsound hpaired hrow _).mpr rfl)
    exact ⟨_, Finset.mem_range.mpr (Table.get?_lt hpayment),
      reservationIdOf_iff hsound hpaired hrow⟩
  exact hlinked.sum g

/-- A sum over the journals is a sum over the payments. -/
lemma debitedFrom_eq (hsound : db.Sound) (b : BudgetId) :
    debitedFrom db b = ∑ p ∈ Finset.range db.payments.nextId,
      if budgetOf db p = some b then (journalView db p).debited else 0 := by
  have hshare : ∀ j ∈ db.ledgerJournals.rows,
      (match j.idempotencyKey with
        | .capture p    => if budgetOf db p = some b then j.total .debit else 0
        | .refund _ _ _ => 0) =
      ∑ p ∈ Finset.range db.payments.nextId,
        if budgetOf db p = some b then j.captureDebit p else 0 := by
    intro j hj
    have hlt := hsound.journal j hj
    unfold LedgerJournal.captureDebit
    cases hkey : j.idempotencyKey with
    | capture q =>
      have hq : q ∈ Finset.range db.payments.nextId := by
        rw [hkey] at hlt
        exact Finset.mem_range.mpr hlt
      rw [Finset.sum_eq_single_of_mem q hq fun p _ hp => by simp [hp.symm]]
      simp
    | refund => simp
  rw [debitedFrom, List.map_congr_left hshare]
  have hswap := Multiset.sum_map_sum (m := (db.ledgerJournals.rows : Multiset LedgerJournal))
    (s := Finset.range db.payments.nextId)
    (f := fun j p => if budgetOf db p = some b then j.captureDebit p else 0)
  rw [Multiset.map_coe, Multiset.sum_coe] at hswap
  rw [hswap]
  refine Finset.sum_congr rfl fun p _ => ?_
  rw [Multiset.map_coe, Multiset.sum_coe]
  split_ifs
  · rfl
  · simp

/-- What one payment has debited its budget has consumed, unless it is overdrawn. -/
lemma debited_split (hcoherent : db.Coherent)
    (hviews : ∀ p v, view db p = some v → v.Accounted) (b : BudgetId) (p : PaymentId) :
    (if budgetOf db p = some b then (journalView db p).debited else 0) =
      ((reservationOf db p).elim 0 fun r =>
        if r.budgetId = b ∧ r.status = .consumed then r.amount.units else 0) +
      if budgetOf db p = some b then
        (view db p).elim 0 fun v => if v.Overdrawn then v.amount.units else 0
      else 0 := by
  cases hrow : reservationOf db p with
  | none => simp [budgetOf, hrow]
  | some row =>
    obtain ⟨r, hid, hrow'⟩ := Option.bind_eq_some_iff.mp hrow
    obtain ⟨payment, hpayment, hid⟩ := Option.bind_eq_some_iff.mp hid
    obtain ⟨request, hrequest, hlink⟩ := Option.bind_eq_some_iff.mp hid
    have hv : view db p = some (viewOf db p payment request) :=
      view_eq_some.mpr ⟨payment, request, hpayment, hrequest, rfl⟩
    have hres : (viewOf db p payment request).reservation = some (r, row.status) := by
      simp [viewOf, reservationView, hlink, hrow']
    have hamount : (viewOf db p payment request).amount = row.amount :=
      (hcoherent.payment p payment request hpayment hrequest).1.trans
        (hcoherent.reservation _ request r row hrequest hlink hrow').2.1.symm
    have hdebited : (journalView db p).debited = _ := (hviews p _ hv).debited_eq hres
    by_cases hb : row.budgetId = b
    · simp only [budgetOf, hrow, Option.map_some, hb, if_true, true_and, Option.elim_some, hv]
      rw [hdebited, hamount]
    · simp [budgetOf, hrow, hb]

/-- What the payments of a budget have debited is what it has consumed, and what is overdrawn. -/
lemma debitedFrom_split (hsound : db.Sound) (hpaired : db.Paired) (hcoherent : db.Coherent)
    (hagree : db.BudgetsAgree) (hviews : ∀ p v, view db p = some v → v.Accounted) {b : BudgetId}
    {budget : Budget} (hb : db.budgets[b]? = some budget) :
    debitedFrom db b = budget.consumedAmount + overdrawnFrom db b := by
  obtain ⟨-, hconsumed, -⟩ := hagree b budget hb
  rw [debitedFrom_eq hsound, hconsumed, reservedUnder, sum_reservations hsound hpaired,
    overdrawnFrom, ← Finset.sum_add_distrib]
  exact Finset.sum_congr rfl fun p _ => debited_split hcoherent hviews b p

end Totals

/-! ### Runs -/

/-- In every run from before the first payment, the capture journals of the payments that a budget
funds debit what the budget has consumed and what is overdrawn; and where no step captures a payment
whose reservation was taken back, what they debit and what is reserved is within the limit. -/
theorem run_spending (env : Env) {db : Db} (hdb : db.Fresh) (as : List Action) {b : BudgetId}
    {budget : Budget} (hb : (Machine.run (State.step env) (.start db) as).db.budgets[b]? =
      some budget) :
    let s := Machine.run (State.step env) (.start db) as
    debitedFrom s.db b = budget.consumedAmount + overdrawnFrom s.db b ∧
      (Machine.Along (State.step env) (fun s a => a.Meets env PaymentOp.KeepsReleased s)
        (.start db) as → debitedFrom s.db b + budget.reservedAmount ≤ budget.limitAmount) := by
  intro s
  have hs : s.Occurs env := ⟨db, as, hdb, rfl⟩
  have haccounted := hs.views (J := PaymentView.Accounted) (fun _ hv => hv.accounted)
    fun _ _ _ hreg hv hstep => hv.step hreg hstep
  have hsplit := debitedFrom_split hs.reachable.invariant.sound hs.paired hs.coherent
    hs.reachable.budgetsAgree haccounted.2 hb
  refine ⟨hsplit, fun halong => ?_⟩
  have hviews := State.run_views (J := fun v => v.Accounted ∧ ¬ v.Overdrawn)
    (fun v hv => ⟨hv.accounted, hv.not_overdrawn⟩)
    (fun op v v' hreg hv hkeeps hstep =>
      ⟨hv.1.step hreg hstep, hv.1.not_overdrawn_step hv.2 hkeeps hstep⟩)
    (hdb.views _) halong
  have hnone : overdrawnFrom s.db b = 0 := by
    refine Finset.sum_eq_zero fun p _ => ?_
    cases hv : view s.db p with
    | none => exact ite_self 0
    | some v => simp [(hviews.2 p v hv).2]
  obtain ⟨-, -, hlimit⟩ := hs.reachable.budgetsAgree b budget hb
  rw [hsplit, hnone]
  exact hlimit

/-- A creation of 60 USD, and a worker that charges it. -/
def Action.spends : List Action :=
  Action.create 0 0 (.sample "key" 60) ++
    [.mark 0 ⟨0, 1⟩, .read 0, .charge 0 ⟨.succeeded, some "ref"⟩, .finalize 0]

theorem run_spending_charge :
    let s := Machine.run (State.step .sample) (.start (.sample [.sample])) Action.spends
    ∃ budget, s.db.budgets[0]? = some budget ∧ budget.consumedAmount = 600000 ∧
      debitedFrom s.db 0 = budget.consumedAmount + overdrawnFrom s.db 0 ∧
      debitedFrom s.db 0 + budget.reservedAmount ≤ budget.limitAmount := by
  intro s
  have hconsumed : (s.db.budgets[0]?).map (·.consumedAmount) = some 600000 := by decide +kernel
  obtain ⟨budget, hb, hbudget⟩ := Option.map_eq_some_iff.mp hconsumed
  obtain ⟨hsplit, hlimit⟩ := run_spending .sample (Db.sample_fresh [.sample]) Action.spends hb
  exact ⟨budget, hb, hbudget, hsplit, hlimit (by decide +kernel)⟩

/-- A worker that comes late takes up a payment whose charge has failed, and an event captures
it: the 60 USD are debited and not consumed. -/
example :
    let s := Machine.run (State.step .sample) (.start (.sample [.sample]))
      (Action.create 0 0 (.sample "key" 60) ++
        [.mark 0 ⟨0, 1⟩, .read 0, .charge 0 ⟨.failed, some "ref"⟩, .finalize 0, .mark 0 ⟨0, 1⟩,
          .webhook 0 (.of "event" "payment.succeeded" "ref")])
    debitedFrom s.db 0 = 600000 ∧ overdrawnFrom s.db 0 = 600000 := by
  decide +kernel

end AgentPay
