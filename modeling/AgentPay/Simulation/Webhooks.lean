import AgentPay.Simulation.Worker

/-!
# Provider events follow the payment machine

A delivered event is a step of the machine of the payment whose charge carries its reference.
-/

namespace AgentPay

open Support

/-! ### Event rows -/


@[simp] lemma view_providerEvents (db : Db) (providerEvents) (p : PaymentId) :
    view { db with providerEvents } p = view db p := rfl

lemma Db.Sound.providerEvents {db : Db} (h : db.Sound) (providerEvents) :
    ({ db with providerEvents } : Db).Sound := ⟨h.1, h.2, h.3, h.4, h.5, h.6, h.7⟩

/-- The event rows belong to no view. -/
lemma Moves.providerEvents {op : PaymentOp} {p : PaymentId} {db db' : Db}
    {e e' : Table ProviderEvent ProviderEvent.key}
    (h : Moves op p { db with providerEvents := e } db') :
    Moves op p db { db' with providerEvents := e' } := by
  obtain ⟨f, heff, hstep⟩ := h
  exact ⟨f, ⟨heff.here, heff.others, heff.sound.providerEvents e'⟩, hstep⟩

/-- What `resolve` does when it returns. -/
lemma ProviderEventResolver.resolve_eq_ok {db db' : Db} {event : EventId} {id : OperationId}
    {outcome : String} {reference : Option String} {accounts : LedgerAccounts}
    {resolution : Resolution}
    (hrun : resolve db event id outcome reference accounts = .ok (resolution, db')) :
    ∃ row, db.providerEvents.get? event = some row ∧ row.signatureValid = true ∧
      (row.processingStatus = .processed ∧ resolution = .duplicate ∧ db' = db ∨
        row.processingStatus ≠ .processed ∧ ∃ o payment request,
          operationRow db id = some (o, payment, request) ∧
          (¬ payment.status.Resolvable ∧ resolution = .ignored ∧ db' = markProcessed db event ∨
            payment.status.Resolvable ∧ resolution = .resolved ∧ ∃ db₁,
              db' = markProcessed db₁ event ∧
              (outcome = "SUCCEEDED" ∧
                  resolveSucceeded db id o payment request accounts reference = .ok db₁ ∨
                outcome = "FAILED" ∧ resolveFailed db id o request reference = .ok db₁))) := by
  simp only [resolve] at hrun
  split at hrun
  · cases hrun
  rename_i row hrow
  by_cases hsig : row.signatureValid = false
  · rw [if_pos hsig] at hrun
    cases hrun
  rw [if_neg hsig] at hrun
  refine ⟨row, hrow, by simpa using hsig, ?_⟩
  by_cases hproc : row.processingStatus = .processed
  · rw [if_pos hproc] at hrun
    obtain ⟨rfl, rfl⟩ := by simpa using hrun
    exact .inl ⟨hproc, rfl, rfl⟩
  rw [if_neg hproc] at hrun
  refine .inr ⟨hproc, ?_⟩
  split at hrun
  · cases hrun
  rename_i o payment request hop
  refine ⟨o, payment, request, hop, ?_⟩
  by_cases hres : payment.status.Resolvable
  · rw [if_neg (not_not.mpr hres)] at hrun
    by_cases hsucc : outcome = "SUCCEEDED"
    · rw [if_pos hsucc] at hrun
      obtain ⟨db₁, hdone, hrun⟩ := Except.bind_eq_ok.mp hrun
      obtain ⟨rfl, rfl⟩ : Resolution.resolved = resolution ∧ _ = db' := by
        simpa [pure, Except.pure] using hrun
      exact .inr ⟨hres, rfl, db₁, rfl, .inl ⟨hsucc, hdone⟩⟩
    rw [if_neg hsucc] at hrun
    by_cases hfail : outcome = "FAILED"
    · rw [if_pos hfail] at hrun
      obtain ⟨db₁, hdone, hrun⟩ := Except.bind_eq_ok.mp hrun
      obtain ⟨rfl, rfl⟩ : Resolution.resolved = resolution ∧ _ = db' := by
        simpa [pure, Except.pure] using hrun
      exact .inr ⟨hres, rfl, db₁, rfl, .inr ⟨hfail, hdone⟩⟩
    · rw [if_neg hfail] at hrun
      cases hrun
  · rw [if_pos hres] at hrun
    obtain ⟨rfl, rfl⟩ := by simpa using hrun
    exact .inl ⟨hres, rfl, rfl⟩

/-- The rows `resolve` joins, as a view. -/
lemma ProviderEventResolver.view_of_operationRow {db : Db} {id : OperationId}
    {o : ProviderOperation} {payment : Payment} {request : PaymentRequest}
    (h : operationRow db id = some (o, payment, request)) :
    db.providerOperations.get? id = some o ∧
      view db o.paymentId = some (viewOf db o.paymentId payment request) := by
  simp only [operationRow, Option.bind_eq_bind, Option.bind_eq_some_iff, Option.pure_def,
    Option.some.injEq, Prod.mk.injEq] at h
  obtain ⟨o', ho, payment', hp, request', hr, rfl, rfl, rfl⟩ := h
  exact ⟨ho, view_eq_some.mpr ⟨_, _, hp, hr, rfl⟩⟩

/-- The charge of an operation that exists. -/
lemma Db.Sound.charge_isSome {db : Db} (h : db.Sound) {id : OperationId} {o : ProviderOperation}
    (ho : db.providerOperations.get? id = some o) (ht : o.operationType = .charge)
    {v : PaymentView} (hv : view db o.paymentId = some v) : v.charge.isSome := by
  have hkey := (h.operation o (Table.mem_of_get? ho)).1.key_eq_charge ht
  have hrow : db.providerOperations.row? (.charge o.paymentId) = some o :=
    Table.row?_eq_some.mpr ⟨Table.mem_of_get? ho, congrArg some hkey⟩
  rw [(view_tables hv).1, hrow]
  rfl

/-- The reservation that a request links, as its view shows it. -/
lemma Db.Sound.reservationView_eq {db : Db} (h : db.Sound) {i : RequestId}
    {request : PaymentRequest} (hr : db.paymentRequests.get? i = some request)
    {id : ReservationId} (hlink : request.budgetReservationId = some id) :
    ∃ s, reservationView db request = some (id, s) := by
  obtain ⟨row, hrow, -⟩ := h.reservation i request id hr hlink
  exact ⟨row.status, by simp [reservationView, hlink, hrow]⟩

/-- A journal moves no transaction. -/
lemma postJournal_transactions {db db' : Db} {debitAccount creditAccount : LedgerAccountId}
    {amount : Decimal} {currency : String} {reference : JournalReference} {key : JournalKey}
    {id : ℕ} (hrun : postJournal db currency reference key
      (transfer debitAccount creditAccount amount currency) = .ok (id, db')) :
    db'.transactions = db.transactions := by
  obtain ⟨-, ⟨-, rfl⟩ | ⟨-, -, -, -, -, -, -, -, rfl⟩⟩ := postJournal_transfer_eq_ok.mp hrun <;>
    rfl

/-- The resolver's capture row is POSTED already, so posting it again changes nothing. -/
lemma ProviderEventResolver.postTransaction_created {db db₁ db₂ db₃ : Db} (h : db.Sound)
    (htransactions : db₁.transactions = db.transactions) {p : PaymentId} {amount : Decimal}
    {currency : String} {reference : Option String} {id : TransactionId}
    (hcreate : createTransaction db₁ p amount currency reference = .ok (id, db₂))
    (hsame : db₃.transactions = db₂.transactions) : postTransaction db₃ id = db₃ := by
  obtain ⟨t, ht, hposted⟩ : ∃ t, db₃.transactions.get? id = some t ∧ t.status = .posted := by
    rw [hsame]
    rcases createTransaction_eq_ok hcreate with
      ⟨t, ht, hkey, rfl⟩ | ⟨stored, -, rfl, -, transactions, hrows, rfl⟩
    · refine ⟨t, ht, ?_⟩
      rw [htransactions] at ht
      have hallows := (h.transaction t (Table.mem_of_get? ht)).1.status
      rwa [hkey] at hallows
    · exact ⟨_, (Table.get?_of_rows_append hrows _).trans (if_pos rfl), rfl⟩
  rw [postTransaction, Table.update_eq_self ht _ (by rw [← hposted])]

section Resolve

variable {db db' : Db} (h : db.Sound) {id : OperationId} {o : ProviderOperation}
  (ho : db.providerOperations.get? id = some o) (ht : o.operationType = .charge)
  {payment : Payment} {request : PaymentRequest}
  (hp : db.payments.get? o.paymentId = some payment)
  (hr : db.paymentRequests.get? payment.paymentRequestId = some request)
  {reference : Option String}

include h ho ht hp hr

lemma ProviderEventResolver.resolveSucceeded_effect {accounts : LedgerAccounts}
    (hrun : resolveSucceeded db id o payment request accounts reference = .ok db') :
    (viewOf db o.paymentId payment request).reservation.isSome ∧
    Effect o.paymentId (fun _ => (viewOf db o.paymentId payment request).succeed .event)
      db db' := by
  have hv : view db o.paymentId = some (viewOf db o.paymentId payment request) :=
    view_eq_some.mpr ⟨payment, request, hp, hr, rfl⟩
  have hcharge := h.charge_isSome ho ht hv
  simp only [resolveSucceeded, ht, if_true] at hrun
  have h₁ := Effect.decideOperation h ho ht .succeeded reference
  obtain ⟨db₂, hsettle, hrun⟩ := Except.bind_eq_ok.mp hrun
  obtain rfl := Except.ok.inj hrun
  simp only [settleCharge] at hsettle
  split at hsettle
  · cases hsettle
  rename_i reservationId hlink
  obtain ⟨s, hres⟩ := h.reservationView_eq hr hlink
  obtain ⟨db₃, hconsume, hsettle⟩ := Except.bind_eq_ok.mp hsettle
  obtain ⟨⟨transactionId, db₄⟩, hcreate, hsettle⟩ := Except.bind_eq_ok.mp hsettle
  obtain ⟨⟨journalId, db₅⟩, hjournal, hsettle⟩ := Except.bind_eq_ok.mp hsettle
  obtain rfl := Except.ok.inj hsettle
  have h₂ := h₁.trans (Effect.settle h₁.sound (h₁.view_some hv) hres hconsume)
  have hfiles : db₃.FilesCapture db₄ o.paymentId .event payment.amount.toDecimal := by
    rcases createTransaction_eq_ok hcreate with ⟨t, ht', hkey, rfl⟩ | ⟨stored, hstored, -, hfiles⟩
    · refine .inl ⟨Option.isSome_iff_exists.mpr ⟨t, ?_⟩, rfl⟩
      exact Table.row?_eq_some.mpr ⟨Table.mem_of_get? ht', congrArg some hkey⟩
    · exact .inr ⟨_, hstored, rfl, rfl, rfl, rfl, hfiles⟩
  have h₃ := h₂.trans
    (Effect.postCapture h₂.sound (h₂.view_some hv) (Amount.store_toDecimal _) hfiles hjournal)
  obtain ⟨row, budgets, -, hdb₃⟩ := BudgetRepository.settle_eq_ok hconsume
  have hpost : postTransaction db₅ transactionId = db₅ :=
    postTransaction_created h (by rw [hdb₃]; rfl) hcreate (postJournal_transactions hjournal)
  rw [hpost]
  have h₄ := h₃.trans (Effect.updateStatus h₃.sound o.paymentId .succeeded reference)
  refine ⟨by simp [viewOf, hres], h₄.congr fun v hv' => ?_⟩
  obtain rfl : viewOf db o.paymentId payment request = v := by simpa [hv] using hv'
  obtain ⟨completed, hcompleted⟩ := Option.isSome_iff_exists.mp hcharge
  have hres' : (viewOf db o.paymentId payment request).reservation = some (reservationId, s) :=
    hres
  simp [PaymentView.succeed, PaymentView.postCapture, hcompleted, hres']

lemma ProviderEventResolver.resolveFailed_effect
    (hrun : resolveFailed db id o request reference = .ok db') :
    Effect o.paymentId (fun _ => (viewOf db o.paymentId payment request).fail) db db' := by
  have hv : view db o.paymentId = some (viewOf db o.paymentId payment request) :=
    view_eq_some.mpr ⟨payment, request, hp, hr, rfl⟩
  obtain ⟨completed, hcompleted⟩ := Option.isSome_iff_exists.mp (h.charge_isSome ho ht hv)
  have h₁ := Effect.decideOperation h ho ht .failed reference
  simp only [resolveFailed, ht] at hrun
  split at hrun
  · rename_i reservationId _ hlink
    obtain ⟨db₂, hrelease, hrun⟩ := Except.bind_eq_ok.mp hrun
    obtain rfl := Except.ok.inj hrun
    obtain ⟨s, hres⟩ := h.reservationView_eq hr hlink
    have hres' : (viewOf db o.paymentId payment request).reservation =
        some (reservationId, s) := hres
    have h₂ := h₁.trans (Effect.settle h₁.sound (h₁.view_some hv) hres hrelease)
    refine (h₂.trans (Effect.updateStatus h₂.sound o.paymentId .failed reference)).congr
      fun v hv' => ?_
    obtain rfl : viewOf db o.paymentId payment request = v := by simpa [hv] using hv'
    simp [PaymentView.fail, hcompleted, hres']
  · rename_i hnone
    obtain rfl := Except.ok.inj hrun
    have hres : (viewOf db o.paymentId payment request).reservation = none := by
      cases hlink : request.budgetReservationId with
      | none => simp [viewOf, reservationView, hlink]
      | some id' => exact absurd hlink (hnone id' rfl)
    refine (h₁.trans (Effect.updateStatus h₁.sound o.paymentId .failed reference)).congr
      fun v hv' => ?_
    obtain rfl : viewOf db o.paymentId payment request = v := by simpa [hv] using hv'
    simp [PaymentView.fail, hcompleted, hres]

end Resolve

/-- The outcome an event type stands for. -/
def eventOutcome (eventType : String) : Option ProviderOutcome :=
  if eventType = "payment.succeeded" then some .succeeded
  else if eventType = "payment.failed" then some .failed
  else none

lemma eventOutcome_eq {eventType : String} :
    (outcomeOf eventType = some "SUCCEEDED" → eventOutcome eventType = some .succeeded) ∧
      (outcomeOf eventType = some "FAILED" → eventOutcome eventType = some .failed) := by
  simp only [outcomeOf, eventOutcome]
  split_ifs <;> simp

/-- The payment that a new event is applied to, with its outcome: what the endpoint looks up before
it resolves. -/
def eventTarget (db : Db) (providerName eventId eventType : String)
    (providerReference : Option String) : Option (PaymentId × ProviderOutcome) := do
  let _ ← (ProviderEventRepository.record db providerName eventId eventType true).1
  let outcome ← eventOutcome eventType
  let reference ← providerReference.bind orNone
  let (_, operation) ← findOperation db reference
  let _ ← ledgerAccounts db operation.paymentId
  return (operation.paymentId, outcome)

lemma findOperation_eq_some {db : Db} {reference : String} {id : OperationId}
    {o : ProviderOperation} (h : findOperation db reference = some (id, o)) :
    db.providerOperations.get? id = some o ∧ o.providerReference = some reference := by
  simp only [findOperation, Option.bind_eq_bind, Option.bind_eq_some_iff, Option.pure_def,
    Option.some.injEq, Prod.mk.injEq] at h
  obtain ⟨id', hid, o', ho, rfl, rfl⟩ := h
  obtain ⟨⟨r, hr, hp⟩, -⟩ := lastIdx?_eq_some.mp hid
  obtain rfl : r = o' := by
    rw [Table.get?, hr, Option.some.injEq] at ho
    exact ho
  exact ⟨ho, by simpa using hp⟩

/-- An operation that a reference leads to is a charge. -/
lemma Db.Sound.findOperation_charge {db : Db} (h : db.Sound) {reference : String}
    {id : OperationId} {o : ProviderOperation} (hfind : findOperation db reference = some (id, o)) :
    o.operationType = .charge := by
  obtain ⟨ho, href⟩ := findOperation_eq_some hfind
  by_contra hne
  rw [(h.operation o (Table.mem_of_get? ho)).1.reference hne] at href
  cases href

lemma record_eq {db db' : Db} {providerName eventId eventType : String} {valid : Bool}
    {event : Option EventId}
    (h : ProviderEventRepository.record db providerName eventId eventType valid = (event, db')) :
    ∃ providerEvents, db' = { db with providerEvents } := by
  simp only [ProviderEventRepository.record] at h
  split at h
  · rename_i events hins
    obtain ⟨-, rfl⟩ := Prod.mk.inj h
    exact ⟨events, rfl⟩
  · obtain ⟨-, rfl⟩ := Prod.mk.inj h
    exact ⟨db.providerEvents, rfl⟩

/-- A delivered event only touches the event rows, or is resolved against the charge that its
reference leads to. -/
lemma applyEvent_eq_ok {db db' : Db} {providerName eventId eventType : String}
    {providerReference : Option String} {status : WebhookStatus}
    (hrun : applyEvent db providerName eventId eventType providerReference = .ok (status, db')) :
    (∃ providerEvents, db' = { db with providerEvents }) ∨
    ∃ providerEvents event outcome reference id o accounts resolution,
      ProviderEventRepository.record db providerName eventId eventType true =
        (some event, { db with providerEvents }) ∧
      outcomeOf eventType = some outcome ∧ providerReference.bind orNone = some reference ∧
      findOperation db reference = some (id, o) ∧
      ledgerAccounts db o.paymentId = some accounts ∧ ∃ providerEvents,
        ProviderEventResolver.resolve { db with providerEvents } event id outcome (some reference)
          accounts = .ok (resolution, db') := by
  simp only [applyEvent] at hrun
  split at hrun
  · rename_i db₁ hrec
    obtain ⟨-, rfl⟩ := by simpa using hrun
    exact .inl (record_eq hrec)
  rename_i event db₁ hrec
  obtain ⟨events, rfl⟩ := record_eq hrec
  split at hrun
  · obtain ⟨-, rfl⟩ := by simpa using hrun
    exact .inl ⟨events, rfl⟩
  rename_i outcome hout
  split at hrun
  · cases hrun
  rename_i reference href
  split at hrun
  · cases hrun
  rename_i id o hfind
  split at hrun
  · cases hrun
  rename_i accounts hacc
  obtain ⟨⟨resolution, db₂⟩, hresolve, hrun⟩ := Except.bind_eq_ok.mp hrun
  obtain ⟨-, rfl⟩ : _ = status ∧ db₂ = db' := by simpa [pure, Except.pure] using hrun
  exact .inr ⟨events, event, outcome, reference, id, o, accounts, resolution, hrec, hout, href,
    hfind, hacc, _, hresolve⟩

/-- `resolve` on a charge is a step of the machine. -/
lemma ProviderEventResolver.resolve_moves {db db' : Db} (h : db.Sound) {event : EventId}
    {id : OperationId} {o : ProviderOperation} (ho : db.providerOperations.get? id = some o)
    (ht : o.operationType = .charge) {outcome : String} {reference : Option String}
    {accounts : LedgerAccounts} {resolution : Resolution}
    (hrun : resolve db event id outcome reference accounts = .ok (resolution, db')) :
    (∃ providerEvents, db' = { db with providerEvents }) ∨
      outcome = "SUCCEEDED" ∧ Moves (.event .succeeded) o.paymentId db db' ∨
      outcome = "FAILED" ∧ Moves (.event .failed) o.paymentId db db' := by
  obtain ⟨row, hrow, -, ⟨-, -, rfl⟩ | ⟨-, o', payment, request, hop, hcase⟩⟩ :=
    resolve_eq_ok hrun
  · exact .inl ⟨_, rfl⟩
  obtain ⟨ho', hv⟩ := view_of_operationRow hop
  obtain rfl : o = o' := by
    rw [ho, Option.some.injEq] at ho'
    exact ho'
  obtain ⟨payment', request', hp, hr, hview⟩ := view_eq_some.mp hv
  have hrows : db.payments.get? o.paymentId = some payment ∧
      db.paymentRequests.get? payment.paymentRequestId = some request := by
    simp only [operationRow, Option.bind_eq_bind, Option.bind_eq_some_iff, Option.pure_def,
      Option.some.injEq, Prod.mk.injEq] at hop
    obtain ⟨o₁, ho₁, payment₁, hp₁, request₁, hr₁, rfl, rfl, rfl⟩ := hop
    exact ⟨hp₁, hr₁⟩
  rcases hcase with ⟨-, -, rfl⟩ | ⟨hres, -, db₁, rfl, ⟨hout, hdone⟩ | ⟨hout, hdone⟩⟩
  · exact .inl ⟨_, rfl⟩
  · obtain ⟨hsome, heff⟩ := resolveSucceeded_effect h ho ht hrows.1 hrows.2 hdone
    have hmoves := Moves.of_effect (g := fun v => v.succeed .event) hv heff rfl
      (.eventSucceeded hres (h.charge_isSome ho ht hv) hsome)
    exact .inr (.inl ⟨hout, hmoves.providerEvents (e := db.providerEvents)⟩)
  · have heff := resolveFailed_effect h ho ht hrows.1 hrows.2 hdone
    have hmoves := Moves.of_effect (g := PaymentView.fail) hv heff rfl
      (.eventFailed hres (h.charge_isSome ho ht hv))
    exact .inr (.inr ⟨hout, hmoves.providerEvents (e := db.providerEvents)⟩)

/-- A delivered event is a step of the payment it is aimed at. -/
lemma applyEvent_moves {db db' : Db} (h : db.Sound) {providerName eventId eventType : String}
    {providerReference : Option String} {status : WebhookStatus}
    (hrun : applyEvent db providerName eventId eventType providerReference = .ok (status, db')) :
    (∃ providerEvents, db' = { db with providerEvents }) ∨
      ∃ p outcome,
        eventTarget db providerName eventId eventType providerReference = some (p, outcome) ∧
        Moves (.event outcome) p db db' := by
  rcases applyEvent_eq_ok hrun with hsame | ⟨events, event, outcome, reference, id, o, accounts,
    resolution, hrec, hout, href, hfind, hacc, events', hresolve⟩
  · exact .inl hsame
  have ht := h.findOperation_charge hfind
  have htarget : ∀ out, eventOutcome eventType = some out →
      eventTarget db providerName eventId eventType providerReference =
        some (o.paymentId, out) := by
    intro out hout
    simp [eventTarget, hrec, hout, href, hfind, hacc]
  rcases ProviderEventResolver.resolve_moves (h.providerEvents events')
      (findOperation_eq_some hfind).1 ht hresolve with
    ⟨after, rfl⟩ | ⟨rfl, hmoves⟩ | ⟨rfl, hmoves⟩
  · exact .inl ⟨after, rfl⟩
  · exact .inr ⟨_, _, htarget .succeeded (eventOutcome_eq.1 hout), hmoves.providerEvents⟩
  · exact .inr ⟨_, _, htarget .failed (eventOutcome_eq.2 hout), hmoves.providerEvents⟩

/-- `provider_webhook` when it returns: the event of its payload was applied. -/
lemma providerWebhook_eq_ok {window : Option ℤ} {now : ℤ} {db db' : Db} {delivery : Delivery}
    {status : WebhookStatus} (hrun : providerWebhook window now db delivery = .ok (status, db')) :
    ∃ eventId eventType providerReference,
      readPayload window now delivery = .ok (eventId, eventType, providerReference) ∧
      applyEvent db delivery.providerName eventId eventType providerReference =
        .ok (status, db') := by
  obtain ⟨⟨eventId, eventType, reference⟩, hread, happly⟩ := Except.bind_eq_ok.mp hrun
  exact ⟨eventId, eventType, reference, hread, happly⟩

end AgentPay
