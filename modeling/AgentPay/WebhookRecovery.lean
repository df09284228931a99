import AgentPay.Acceptance
import AgentPay.Agreement
import AgentPay.WebhookOnce

/-!
# Recovering an unknown outcome by webhook

`finalize` writes the provider's reference of an UNKNOWN outcome to the payment and not to the
operation, and the endpoint looks for it among the operations. So an event recovers the payment
exactly when its charge carries the reference for another reason.
-/

namespace AgentPay

open Support

/-! ### Recovery -/

/-- What the reservation of a payment becomes with an outcome. -/
def ProviderOutcome.reservationStatus : ProviderOutcome → ReservationStatus
  | .succeeded => .consumed
  | .failed    => .released
  | .unknown   => .reserved

/-- The payment has the outcome, with what goes with it. -/
structure HasOutcome (db : Db) (p : PaymentId) (outcome : ProviderOutcome) (v : PaymentView) :
    Prop where
  payment : view db p = some v
  status : v.status = outcome.paymentStatus
  reservation : ∃ r, v.reservation = some (r, outcome.reservationStatus)
  journal : outcome = .succeeded → (captureJournals db p).length = 1

/-- The delivery is applied to the payment, and commits the outcome. -/
def Recovers (window : Option ℤ) (now : ℤ) (db : Db) (delivery : Delivery) (p : PaymentId)
    (outcome : ProviderOutcome) : Prop :=
  ∃ db' v, providerWebhook window now db delivery = .ok (.applied .resolved p, db') ∧
    HasOutcome db' p outcome v

/-- The newest operation that carries the reference is one of the payment. -/
def Correlates (db : Db) (p : PaymentId) (reference : String) : Prop :=
  ∃ id o, db.providerOperations.get? id = some o ∧ o.providerReference = some reference ∧
    o.paymentId = p ∧ ∀ id' o', id < id' → db.providerOperations.get? id' = some o' →
      o'.providerReference ≠ some reference

/-- The reservation of the payment is RESERVED, or was already settled the same way. -/
def Settleable (db : Db) (p : PaymentId) (outcome : ProviderOutcome) : Prop :=
  ∃ v r s, view db p = some v ∧ v.reservation = some (r, s) ∧
    (s = .reserved ∨ s = outcome.reservationStatus)

lemma correlates_iff {db : Db} {p : PaymentId} {reference : String} :
    Correlates db p reference ↔
      ∃ id o, findOperation db reference = some (id, o) ∧ o.paymentId = p := by
  constructor
  · rintro ⟨id, o, ho, hreference, hp, hnewest⟩
    refine ⟨id, o, ?_, hp⟩
    have hid : lastIdx? (fun o : ProviderOperation =>
        decide (o.providerReference = some reference)) db.providerOperations.rows = some id :=
      lastIdx?_eq_some.mpr ⟨⟨o, ho, by simp [hreference]⟩, fun j o' hj ho' => by
        simpa using hnewest j o' hj ho'⟩
    simp [findOperation, hid, ho]
  · rintro ⟨id, o, hfind, hp⟩
    obtain ⟨ho, hreference⟩ := findOperation_eq_some hfind
    refine ⟨id, o, ho, hreference, hp, fun id' o' hlt ho' => ?_⟩
    simp only [findOperation, Option.bind_eq_bind, Option.bind_eq_some_iff, Option.pure_def,
      Option.some.injEq, Prod.mk.injEq] at hfind
    obtain ⟨id₀, hid, o₀, -, rfl, -⟩ := hfind
    simpa using (lastIdx?_eq_some.mp hid).2 id' o' hlt ho'

/-! ### Resolving a payment in any state of its books -/

/-- A budget that agrees counts each of its RESERVED reservations. -/
lemma Db.BudgetsAgree.counts {db : Db} (h : db.BudgetsAgree) {r : ReservationId}
    {row : BudgetReservation} (hrow : db.budgetReservations.get? r = some row)
    (hreserved : row.status = .reserved) {b : Budget} (hb : db.budgets[row.budgetId]? = some b) :
    row.amount.units ≤ b.reservedAmount := by
  rw [(h row.budgetId b hb).1, reservedUnder]
  refine List.single_le_sum (fun _ _ => Nat.zero_le _) _ (List.mem_map.mpr ⟨row, ?_, ?_⟩)
  · exact Table.mem_of_get? hrow
  · simp [hreserved]

/-- A settlement goes through when the budgets agree. -/
lemma settle_of_agree {db : Db} (h : db.BudgetsAgree) {r : ReservationId} {row : BudgetReservation}
    (hrow : db.budgetReservations.get? r = some row) (call : SettleCall) :
    ∃ budgetReservations budgets, BudgetRepository.settle db r call.status call.budget =
      .ok { db with budgetReservations, budgets } := by
  by_cases hreserved : row.status = .reserved
  · have hcall : ∀ b, db.budgets[row.budgetId]? = some b →
        ∃ b', call.budget b row.amount = .ok b' := fun b hb => by
      have hle := h.counts hrow hreserved hb
      cases call
      · exact ⟨_, if_pos hle⟩
      · exact ⟨_, if_pos hle⟩
    obtain ⟨budgets, hsettle⟩ := settle_of_reserved db call.status _ hrow hreserved hcall
    exact ⟨_, budgets, hsettle⟩
  · exact ⟨_, _, settle_of_settled hrow hreserved _ _⟩

/-- The resolver's capture row is created or found. -/
lemma ProviderEventResolver.createTransaction_ok (db : Db) (p : PaymentId) (amount : Amount)
    (currency : String) (reference : Option String) :
    ∃ id transactions, createTransaction db p amount.toDecimal currency reference =
      .ok (id, { db with transactions }) := by
  cases hid : db.transactions.idOf? (.eventCapture p) with
  | some id => exact ⟨id, db.transactions, by simp only [createTransaction, hid]⟩
  | none =>
    obtain ⟨transactions, hcreate, -⟩ := createTransaction_appends db hid amount currency reference
    exact ⟨_, transactions, hcreate⟩

section Resolves

variable {db : Db} (h : db.Sound) (hagree : db.BudgetsAgree) (id : OperationId)
  {o : ProviderOperation} (ht : o.operationType = .charge) {payment : Payment}
  {request : PaymentRequest} (hr : db.paymentRequests.get? payment.paymentRequestId = some request)
  {reservationId : ReservationId} (hlink : request.budgetReservationId = some reservationId)

include h hagree ht hr hlink

lemma ProviderEventResolver.resolveSucceeded_ok {accounts : LedgerAccounts}
    (hknown : accounts.Known db) (reference : Option String) :
    ∃ db', resolveSucceeded db id o payment request accounts reference = .ok db' := by
  obtain ⟨row, hrow, -⟩ := h.reservation _ request reservationId hr hlink
  set db₁ := decideOperation db id .succeeded reference with hdb₁
  have hagree₁ : db₁.BudgetsAgree := hagree.congr rfl rfl
  obtain ⟨reservations, budgets, hconsume⟩ := settle_of_agree hagree₁ hrow .consume
  set db₂ : Db := { db₁ with budgetReservations := reservations, budgets } with hdb₂
  obtain ⟨transactionId, transactions, hcreate⟩ := createTransaction_ok db₂ o.paymentId
    payment.amount (normCurrency payment.currency) reference
  obtain ⟨journalId, journals, hpost, -⟩ := postJournal_posts { db₂ with transactions } hknown
    payment.amount (normCurrency payment.currency) (.payment o.paymentId) (.capture o.paymentId)
  have hsettle : settleCharge db₁ o.paymentId request.budgetReservationId
      payment.amount.toDecimal (normCurrency payment.currency) accounts reference =
      .ok (postTransaction { db₂ with transactions, ledgerJournals := journals }
        transactionId) := by
    rw [hlink]
    exact Except.bind_eq_ok.mpr ⟨db₂, hconsume, Except.bind_eq_ok.mpr ⟨_, hcreate,
      Except.bind_eq_ok.mpr ⟨_, hpost, rfl⟩⟩⟩
  refine ⟨PaymentRepository.updateStatus (postTransaction
    { db₂ with transactions, ledgerJournals := journals } transactionId) o.paymentId .succeeded
    reference, ?_⟩
  simp only [resolveSucceeded, ht, if_true]
  exact Except.bind_eq_ok.mpr ⟨_, hsettle, rfl⟩

lemma ProviderEventResolver.resolveFailed_ok (reference : Option String) :
    ∃ db', resolveFailed db id o request reference = .ok db' := by
  obtain ⟨row, hrow, -⟩ := h.reservation _ request reservationId hr hlink
  have hagree₁ : (decideOperation db id .failed reference).BudgetsAgree := hagree.congr rfl rfl
  obtain ⟨reservations, budgets, hrelease⟩ := settle_of_agree hagree₁ hrow .release
  refine ⟨PaymentRepository.updateStatus { decideOperation db id .failed reference with
    budgetReservations := reservations, budgets } o.paymentId .failed reference, ?_⟩
  simp only [resolveFailed, ht, hlink]
  exact Except.bind_eq_ok.mpr ⟨_, hrelease, rfl⟩

end Resolves

/-! ### A first delivery -/

lemma outcomeOf_of_eventOutcome {eventType : String} {outcome : ProviderOutcome}
    (h : eventOutcome eventType = some outcome) :
    outcome = .succeeded ∧ outcomeOf eventType = some "SUCCEEDED" ∨
      outcome = .failed ∧ outcomeOf eventType = some "FAILED" := by
  simp only [eventOutcome, outcomeOf] at h ⊢
  split_ifs at h ⊢
  · exact .inl ⟨(Option.some.inj h).symm, rfl⟩
  · exact .inr ⟨(Option.some.inj h).symm, rfl⟩

/-- The endpoint after the payload is read. -/
lemma providerWebhook_of_read {window : Option ℤ} {now : ℤ} {db : Db} {delivery : Delivery}
    {eventId eventType : String} {reference : Option String}
    (hread : readPayload window now delivery = .ok (eventId, eventType, reference)) :
    providerWebhook window now db delivery =
      applyEvent db delivery.providerName eventId eventType reference := by
  rw [providerWebhook, hread]
  rfl

section FirstDelivery

variable {db : Db} {providerName eventId eventType reference outcome : String}
  (hfirst : db.providerEvents.row? (providerName, eventId) = none)
  (houtcome : outcomeOf eventType = some outcome) (hreference : reference ≠ "")

include hfirst houtcome hreference

/-- The first delivery of an event whose reference leads to no operation. -/
lemma applyEvent_of_unknown (hfind : findOperation db reference = none) :
    applyEvent db providerName eventId eventType (some reference) =
      .error (.http 404 "provider operation not found") := by
  set row : ProviderEvent :=
    { providerName, providerEventId := eventId, eventType, signatureValid := true,
      processingStatus := .received, providerOperationId := none } with hrow
  have hadmits : db.providerEvents.Admits row :=
    (Table.admits_iff_row? (t := db.providerEvents) (r := row) (k := (providerName, eventId))
      rfl).mpr hfirst
  set events := db.providerEvents.append row hadmits with hevents
  have hinsert : db.providerEvents.insert? row = some events := dif_pos hadmits
  have hfind' : findOperation { db with providerEvents := events } reference = none := hfind
  simp only [applyEvent, ProviderEventRepository.record, ← hrow, hinsert, houtcome,
    Option.bind_some, orNone, if_neg hreference, hfind']

/-- The first delivery of an event that leads to an operation is resolved. -/
lemma applyEvent_of_first {id : OperationId} {o : ProviderOperation} {accounts : LedgerAccounts}
    (hfind : findOperation db reference = some (id, o))
    (haccounts : ledgerAccounts db o.paymentId = some accounts) :
    ∃ providerEvents event row, providerEvents.get? event = some row ∧
      row.signatureValid = true ∧ row.processingStatus = .received ∧
      applyEvent db providerName eventId eventType (some reference) =
        (ProviderEventResolver.resolve { db with providerEvents } event id outcome
          (some reference) accounts).map fun x => (.applied x.1 o.paymentId, x.2) := by
  set row : ProviderEvent :=
    { providerName, providerEventId := eventId, eventType, signatureValid := true,
      processingStatus := .received, providerOperationId := none } with hrow
  have hadmits : db.providerEvents.Admits row :=
    (Table.admits_iff_row? (t := db.providerEvents) (r := row) (k := (providerName, eventId))
      rfl).mpr hfirst
  set events := db.providerEvents.append row hadmits with hevents
  have hinsert : db.providerEvents.insert? row = some events := dif_pos hadmits
  have hget : events.get? db.providerEvents.nextId = some row := by
    rw [Table.get?_of_rows_append (Table.rows_append ..), if_pos rfl]
  refine ⟨events.update db.providerEvents.nextId
    (fun e => { e with providerOperationId := some id }) fun _ => rfl, db.providerEvents.nextId,
    { row with providerOperationId := some id }, ?_, rfl, rfl, ?_⟩
  · exact (Table.get?_update_self _ _ (fun e : ProviderEvent =>
      { e with providerOperationId := some id }) fun _ => rfl).trans (by rw [hget]; rfl)
  · have hfind' : findOperation { db with providerEvents := events } reference = some (id, o) :=
      hfind
    have haccounts' : ∀ providerEvents,
        ledgerAccounts { db with providerEvents } o.paymentId = some accounts := fun _ => haccounts
    simp only [applyEvent, ProviderEventRepository.record, ← hrow, hinsert, houtcome,
      Option.bind_some, orNone, if_neg hreference, hfind', haccounts']
    cases ProviderEventResolver.resolve _ _ _ _ _ _ <;> rfl

end FirstDelivery

/-- What is applied is applied to the payment of the operation that was found. -/
lemma applyEvent_applied {db db' : Db} {providerName eventId eventType reference : String}
    (hreference : reference ≠ "") {id : OperationId} {o : ProviderOperation}
    (hfind : findOperation db reference = some (id, o)) {resolution : Resolution} {p : PaymentId}
    (hrun : applyEvent db providerName eventId eventType (some reference) =
      .ok (.applied resolution p, db')) : o.paymentId = p := by
  simp only [applyEvent] at hrun
  split at hrun
  · cases hrun
  rename_i event db₁ hrecord
  obtain ⟨events, rfl⟩ := record_eq hrecord
  have hfind' : findOperation { db with providerEvents := events } reference = some (id, o) := hfind
  simp only [Option.bind_some, orNone, if_neg hreference, hfind'] at hrun
  split at hrun
  · cases hrun
  split at hrun
  · cases hrun
  obtain ⟨⟨resolution', db₂⟩, -, hrun⟩ := Except.bind_eq_ok.mp hrun
  obtain ⟨hstatus, -⟩ := Prod.mk.inj (Except.ok.inj hrun)
  exact (WebhookStatus.applied.inj hstatus).2

/-! ### Recovery and its condition -/

/-- The capture journal of a payment is one. -/
lemma captureJournals_length {db : Db} {p : PaymentId} {v : PaymentView} (hv : view db p = some v)
    (hcapture : v.journals.capture = true) : (captureJournals db p).length = 1 := by
  have hle : (captureJournals db p).length ≤ 1 := by
    simpa [captureJournals] using db.ledgerJournals.length_filter_key (.capture p)
  have hpos := List.length_pos_iff.mpr (captureJournals_ne_nil hv hcapture)
  omega

lemma PaymentView.succeed_journal (v : PaymentView) (path : CapturePath) :
    (v.succeed path).journals.capture = true := by
  simp only [PaymentView.succeed, PaymentView.postCapture, JournalView.postCapture]
  split_ifs with hcapture
  · exact hcapture
  · rfl

/-- What a settled reservation was before. -/
lemma settleable_of {db : Db} {p : PaymentId} {v : PaymentView} {outcome : ProviderOutcome}
    {r : ReservationId} (hv : view db p = some v)
    (hr : (v.reservation.map fun x => (x.1, x.2.settle outcome.reservationStatus)) =
      some (r, outcome.reservationStatus)) : Settleable db p outcome := by
  obtain ⟨⟨r', s⟩, hres, heq⟩ := Option.map_eq_some_iff.mp hr
  obtain ⟨rfl, hs⟩ := Prod.mk.inj heq
  refine ⟨v, r', s, hv, hres, ?_⟩
  unfold ReservationStatus.settle at hs
  split_ifs at hs with hreserved
  · exact .inl hreserved
  · exact .inr hs

section Recovery

variable {db : Db} (h : db.Sound) (hagree : db.BudgetsAgree) {window : Option ℤ} {now : ℤ}
  {delivery : Delivery} {eventId eventType reference : String}
  (hread : readPayload window now delivery = .ok (eventId, eventType, some reference))
  (hreference : reference ≠ "") {outcome : ProviderOutcome}
  (houtcome : eventOutcome eventType = some outcome)
  (hfirst : db.providerEvents.row? (delivery.providerName, eventId) = none)
  {accounts : LedgerAccounts} (hknown : accounts.Known db) {payment : Payment}
  (hunknown : payment.status = .unknownExternalOutcome)

include h hread hreference houtcome hfirst hunknown

/-- The first delivery of a definitive event whose reference leads to an UNKNOWN payment recovers
it exactly when the reservation allows it. -/
lemma recovers_iff_settleable {id : OperationId} {o : ProviderOperation}
    (hfind : findOperation db reference = some (id, o))
    (hp : db.payments.get? o.paymentId = some payment)
    (haccounts : ledgerAccounts db o.paymentId = some accounts) (hagree : db.BudgetsAgree)
    (hknown : accounts.Known db) :
    Recovers window now db delivery o.paymentId outcome ↔ Settleable db o.paymentId outcome := by
  obtain ⟨request, hr⟩ := h.request o.paymentId payment hp
  set v := viewOf db o.paymentId payment request with hv
  have hview : view db o.paymentId = some v :=
    view_eq_some.mpr ⟨payment, request, hp, hr, rfl⟩
  obtain ⟨ho, -⟩ := findOperation_eq_some hfind
  have ht := h.findOperation_charge hfind
  have hname := outcomeOf_of_eventOutcome houtcome
  obtain ⟨name, hname'⟩ : ∃ name, outcomeOf eventType = some name := by
    rcases hname with ⟨-, hname⟩ | ⟨-, hname⟩ <;> exact ⟨_, hname⟩
  obtain ⟨events, event, row, hevent, hsigned, hreceived, happly⟩ :=
    applyEvent_of_first hfirst hname' hreference hfind haccounts
  rw [Recovers, providerWebhook_of_read hread, happly]
  set db₁ : Db := { db with providerEvents := events } with hdb₁
  have h₁ : db₁.Sound := h.providerEvents events
  have ho₁ : db₁.providerOperations.get? id = some o := ho
  have hp₁ : db₁.payments.get? o.paymentId = some payment := hp
  have hr₁ : db₁.paymentRequests.get? payment.paymentRequestId = some request := hr
  have hrow₁ : ProviderEventResolver.operationRow db₁ id = some (o, payment, request) := by
    simp [ProviderEventResolver.operationRow, ho₁, hp₁, hr₁]
  have hresolvable : payment.status.Resolvable := .inl hunknown
  constructor
  · rintro ⟨db', v', hrun, houtcome'⟩
    cases hresolve : ProviderEventResolver.resolve db₁ event id name (some reference) accounts with
    | error e =>
      rw [hresolve] at hrun
      cases hrun
    | ok answer =>
      obtain ⟨resolution, db₂⟩ := answer
      rw [hresolve] at hrun
      obtain ⟨-, rfl⟩ := Prod.mk.inj (Except.ok.inj hrun)
      obtain ⟨row', hevent', -, ⟨hprocessed, -⟩ | ⟨-, o', payment', request', hrow', hcase⟩⟩ :=
        ProviderEventResolver.resolve_eq_ok hresolve
      · obtain rfl := Option.some.inj (hevent.symm.trans hevent')
        rw [hreceived] at hprocessed
        cases hprocessed
      obtain ⟨rfl, rfl, rfl⟩ : o = o' ∧ payment = payment' ∧ request = request' := by
        simpa [hrow₁] using hrow'
      obtain ⟨r, hr'⟩ := houtcome'.reservation
      rcases hcase with ⟨hnot, -⟩ | ⟨-, -, db₃, rfl, ⟨rfl, hdone⟩ | ⟨rfl, hdone⟩⟩
      · exact absurd hresolvable hnot
      · obtain rfl : outcome = .succeeded := by
          rcases hname with ⟨hname, -⟩ | ⟨-, hname⟩
          · exact hname
          · exact absurd (hname'.symm.trans hname) (by decide)
        obtain ⟨-, heffect⟩ :=
          ProviderEventResolver.resolveSucceeded_effect h₁ ho₁ ht hp₁ hr₁ hdone
        have hv' : v' = v.succeed .event :=
          Option.some.inj (houtcome'.payment.symm.trans (heffect.view_some hview))
        rw [hv'] at hr'
        exact settleable_of hview hr'
      · obtain rfl : outcome = .failed := by
          rcases hname with ⟨-, hname⟩ | ⟨hname, -⟩
          · exact absurd (hname'.symm.trans hname) (by decide)
          · exact hname
        have heffect := ProviderEventResolver.resolveFailed_effect h₁ ho₁ ht hp₁ hr₁ hdone
        have hv' : v' = v.fail :=
          Option.some.inj (houtcome'.payment.symm.trans (heffect.view_some hview))
        rw [hv'] at hr'
        exact settleable_of hview hr'
  · rintro ⟨v', r, s, hv', hres, hs⟩
    obtain rfl := Option.some.inj (hview.symm.trans hv')
    have hlink : ∃ reservationId, request.budgetReservationId = some reservationId := by
      cases hlink : request.budgetReservationId with
      | none => simp [hv, viewOf, reservationView, hlink] at hres
      | some reservationId => exact ⟨reservationId, rfl⟩
    obtain ⟨reservationId, hlink⟩ := hlink
    have hagree₁ : db₁.BudgetsAgree := hagree.congr rfl rfl
    have hfresh : row.processingStatus ≠ .processed := by simp [hreceived]
    have hevent₁ : db₁.providerEvents.get? event = some row := hevent
    have hresolve : ProviderEventResolver.resolve db₁ event id name (some reference) accounts =
        if name = "SUCCEEDED" then do
          let db ← ProviderEventResolver.resolveSucceeded db₁ id o payment request accounts
            (some reference)
          return (.resolved, markProcessed db event)
        else if name = "FAILED" then do
          let db ← ProviderEventResolver.resolveFailed db₁ id o request (some reference)
          return (.resolved, markProcessed db event)
        else .error (.valueError "unsupported provider outcome") := by
      simp only [ProviderEventResolver.resolve, hevent₁, hsigned, Bool.true_eq_false, if_false,
        if_neg hfresh, hrow₁, hresolvable, not_true]
    have hsettle : s.settle outcome.reservationStatus = outcome.reservationStatus := by
      rcases hs with rfl | rfl
      · rfl
      · cases outcome <;> rfl
    rw [hresolve]
    rcases hname with ⟨rfl, hname⟩ | ⟨rfl, hname⟩
    · obtain rfl := Option.some.inj (hname.symm.trans hname')
      obtain ⟨db₂, hdone⟩ := ProviderEventResolver.resolveSucceeded_ok h₁ hagree₁ id ht hr₁
        hlink hknown (some reference)
      obtain ⟨-, heffect⟩ :=
        ProviderEventResolver.resolveSucceeded_effect h₁ ho₁ ht hp₁ hr₁ hdone
      have hview₂ := heffect.view_some hview
      refine ⟨markProcessed db₂ event, v.succeed .event, ?_, hview₂, rfl, ⟨r, ?_⟩,
        fun _ => captureJournals_length hview₂ (v.succeed_journal .event)⟩
      · rw [hdone]
        rfl
      · simp only [PaymentView.succeed, PaymentView.postCapture, hres, Option.map_some]
        exact congrArg (fun s => some (r, s)) hsettle
    · obtain rfl := Option.some.inj (hname.symm.trans hname')
      obtain ⟨db₂, hdone⟩ := ProviderEventResolver.resolveFailed_ok h₁ hagree₁ id ht hr₁
        hlink (some reference)
      have heffect := ProviderEventResolver.resolveFailed_effect h₁ ho₁ ht hp₁ hr₁ hdone
      refine ⟨markProcessed db₂ event, v.fail, ?_, heffect.view_some hview, rfl, ⟨r, ?_⟩,
        fun heq => absurd heq (by decide)⟩
      · rw [hdone]
        rfl
      · simp only [PaymentView.fail, hres, Option.map_some]
        exact congrArg (fun s => some (r, s)) hsettle

/-- The first delivery of a definitive event recovers an UNKNOWN payment exactly when its reference
leads to the payment and the reservation allows it. -/
lemma recovers_iff {p : PaymentId} (hp : db.payments.get? p = some payment)
    (haccounts : ledgerAccounts db p = some accounts) (hagree : db.BudgetsAgree)
    (hknown : accounts.Known db) :
    Recovers window now db delivery p outcome ↔
      Correlates db p reference ∧ Settleable db p outcome := by
  rw [correlates_iff]
  cases hfind : findOperation db reference with
  | none =>
    obtain ⟨name, hname⟩ : ∃ name, outcomeOf eventType = some name := by
      rcases outcomeOf_of_eventOutcome houtcome with ⟨-, hname⟩ | ⟨-, hname⟩ <;> exact ⟨_, hname⟩
    rw [Recovers, providerWebhook_of_read hread,
      applyEvent_of_unknown hfirst hname hreference hfind]
    simp
  | some found =>
    obtain ⟨id, o⟩ := found
    by_cases howner : o.paymentId = p
    · subst howner
      rw [recovers_iff_settleable h hread hreference houtcome hfirst hunknown hfind hp haccounts
        hagree hknown]
      exact ⟨fun hsettleable => ⟨⟨id, o, rfl, rfl⟩, hsettleable⟩, fun hboth => hboth.2⟩
    · constructor
      · rintro ⟨db', v, hrun, -⟩
        rw [providerWebhook_of_read hread] at hrun
        exact absurd (applyEvent_applied hreference hfind hrun) howner
      · rintro ⟨⟨id', o', heq, hp'⟩, -⟩
        obtain ⟨rfl, rfl⟩ := Prod.mk.inj (Option.some.inj heq)
        exact absurd hp' howner

end Recovery

/-! ### Every reachable state -/

/-- In every reachable state, the first delivery of a definitive event recovers an UNKNOWN payment
exactly when the payment's charge carries the event's reference and the reservation allows the
outcome. -/
theorem reachable_recovers_iff {env : Env} {s : State} (hs : s.Reachable env) {p : PaymentId}
    {payment : Payment} (hp : s.db.payments.get? p = some payment)
    (hunknown : payment.status = .unknownExternalOutcome) {now : ℤ} {delivery : Delivery}
    {eventId eventType reference : String}
    (hread : readPayload env.replayWindow now delivery = .ok (eventId, eventType, some reference))
    (hreference : reference ≠ "") {outcome : ProviderOutcome}
    (houtcome : eventOutcome eventType = some outcome)
    (hfirst : s.db.providerEvents.row? (delivery.providerName, eventId) = none)
    {accounts : LedgerAccounts} (haccounts : ledgerAccounts s.db p = some accounts)
    (hknown : accounts.Known s.db) :
    Recovers env.replayWindow now s.db delivery p outcome ↔
      Correlates s.db p reference ∧ Settleable s.db p outcome :=
  recovers_iff hs.invariant.sound hread hreference houtcome hfirst hunknown hp haccounts
    hs.budgetsAgree hknown

/-- The steps after which an UNKNOWN payment's charge carries the reference: a second worker's
UNKNOWN reaches a payment that the first one has charged and a third one has re-opened. -/
theorem reachable_recovers_reopened :
    let s := Machine.run (State.step .bare) (.start (.seeded .processing (some .reserved)))
      [.mark 0 ⟨0, 1⟩, .read 0, .mark 0 ⟨0, 1⟩, .read 1, .charge 0 ⟨.succeeded, some "ref"⟩,
        .finalize 0, .mark 0 ⟨0, 1⟩, .charge 1 ⟨.unknown, some "ref"⟩, .finalize 1]
    Recovers (some 0) 0 s.db (.of "event" "payment.succeeded" "ref") 0 .succeeded := by
  intro s
  have hs : s.Reachable .bare :=
    ⟨_, _, Db.seeded_blank _ _, Db.seeded_budgetsAgree _ _, rfl⟩
  have hp : s.db.payments.get? 0 =
      some ⟨0, .seeded, "USD", .unknownExternalOutcome, some "ref", some 0⟩ := by decide +kernel
  have hfind : findOperation s.db "ref" =
      some (0, ⟨0, .charge, .charge 0, some "ref", .unknown, true⟩) := by decide +kernel
  have hres : (view s.db 0).map (·.reservation) = some (some (0, .consumed)) := by decide +kernel
  obtain ⟨v, hv, hres⟩ := Option.map_eq_some_iff.mp hres
  have hknown : (⟨0, 1⟩ : LedgerAccounts).Known s.db := by decide +kernel
  refine (reachable_recovers_iff hs hp rfl rfl (by decide) rfl (by decide +kernel)
    (by decide +kernel) hknown).mpr ⟨?_, ?_⟩
  · exact correlates_iff.mpr ⟨_, _, hfind, rfl⟩
  · exact ⟨v, 0, .consumed, hv, hres, .inr rfl⟩

/-- An ambiguous charge: its event finds no operation. -/
theorem reachable_lost :
    let db := Db.seeded .processing (some .reserved)
    let s := Machine.run (State.step .bare) (.start db)
      [.mark 0 ⟨0, 1⟩, .read 0, .charge 0 ⟨.unknown, some "ref"⟩, .finalize 0]
    s.Reachable .bare ∧
      s.db.payments.get? 0 =
        some ⟨0, .seeded, "USD", .unknownExternalOutcome, some "ref", some 0⟩ ∧
      s.db.providerEvents.rows = [] ∧ ledgerAccounts s.db 0 = some ⟨0, 1⟩ ∧
      providerWebhook (some 0) 0 s.db (.of "event" "payment.succeeded" "ref") =
        .error (.http 404 "provider operation not found") ∧
      ¬ Recovers (some 0) 0 s.db (.of "event" "payment.succeeded" "ref") 0 .succeeded := by
  intro db s
  have hlost : providerWebhook (some 0) 0 s.db (.of "event" "payment.succeeded" "ref") =
      .error (.http 404 "provider operation not found") :=
    (providerWebhook_of_read rfl).trans <|
      applyEvent_of_unknown (by decide +kernel) rfl (by decide) (by decide +kernel)
  refine ⟨⟨_, _, Db.seeded_blank _ _, Db.seeded_budgetsAgree _ _, rfl⟩, by decide +kernel,
    by decide +kernel, by decide +kernel, hlost, ?_⟩
  rintro ⟨db', v, hrun, -⟩
  rw [hrun] at hlost
  cases hlost

end AgentPay
