import AgentPay.WebhookRecovery

/-!
# An outcome now or later

The provider answers an operation at once, or its answer is UNKNOWN and an event brings the
outcome later. What the two ways leave of the payment is compared, operation by operation.
-/

namespace AgentPay

open Support

/-! ### What is left of a payment -/

/-- A debit adds to its account, a credit takes away. -/
def LedgerPosting.signed (posting : LedgerPosting) : ℤ :=
  if posting.side = .debit then posting.amount.units else -posting.amount.units

/-- What a journal adds to an account. -/
def LedgerJournal.net (j : LedgerJournal) (account : LedgerAccountId) : ℤ :=
  (j.postings.map fun posting =>
    if posting.ledgerAccountId = account then posting.signed else 0).sum

/-- The net postings of an account. -/
def Db.net (db : Db) (account : LedgerAccountId) : ℤ :=
  (db.ledgerJournals.rows.map (·.net account)).sum

/-- The transactions of a payment, without their keys. -/
def Db.entries (db : Db) (p : PaymentId) :
    Multiset (TransactionType × TransactionStatus × Amount) :=
  (db.transactionsOf p).map fun t => (t.type, t.status, t.amount)

/-- The status of the reservation of a payment. -/
def Db.heldStatus (db : Db) (p : PaymentId) : Option ReservationStatus :=
  (((db.payments.get? p).map (·.paymentRequestId)).bind fun i =>
    (db.paymentRequests.get? i).bind (reservationView db)).map (·.2)

/-- What two ways of learning an outcome are compared by. -/
@[ext] structure Aftermath where
  status : Option PaymentStatus
  reservation : Option ReservationStatus
  transactions : Multiset (TransactionType × TransactionStatus × Amount)
  net : LedgerAccountId → ℤ

def aftermath (db : Db) (p : PaymentId) : Aftermath where
  status := (db.payments.get? p).map (·.status)
  reservation := db.heldStatus p
  transactions := db.entries p
  net := db.net

/-- What is left when only the status is written. -/
def Aftermath.withStatus (status : PaymentStatus) (left : Aftermath) : Aftermath :=
  { left with status := some status }

lemma aftermath_of_view {db : Db} {p : PaymentId} {v : PaymentView} (h : view db p = some v) :
    (aftermath db p).status = some v.status ∧
      (aftermath db p).reservation = v.reservation.map (·.2) := by
  obtain ⟨payment, request, hp, hr, rfl⟩ := view_eq_some.mp h
  simp [aftermath, Db.heldStatus, hp, hr, viewOf]

/-- A status update is all that a step changes of what is left. -/
lemma Db.heldStatus_congr {db db' : Db} {p : PaymentId}
    (hpayments : (db'.payments.get? p).map (·.paymentRequestId) =
      (db.payments.get? p).map (·.paymentRequestId))
    (hrequests : db'.paymentRequests = db.paymentRequests)
    (hreservations : db'.budgetReservations = db.budgetReservations) :
    db'.heldStatus p = db.heldStatus p := by
  have hview : reservationView db' = reservationView db := by
    funext request
    simp only [reservationView, hreservations]
  rw [heldStatus, heldStatus, hpayments, hrequests, hview]

lemma Db.entries_of_files {db db' : Db} {t : Transaction} (h : db.Files db' t) :
    db'.entries t.paymentId = (t.type, t.status, t.amount) ::ₘ db.entries t.paymentId := by
  obtain ⟨-, transactions, hrows, rfl⟩ := h
  simp only [entries, transactionsOf, hrows, List.filter_append, List.map_append]
  rw [← Multiset.coe_add, add_comm, ← Multiset.singleton_add]
  simp

/-- The entries of a kind are counted in the rows. -/
lemma Db.countP_entries (db : Db) (p : PaymentId)
    (q : TransactionType × TransactionStatus × Amount → Prop) [DecidablePred q] :
    (db.entries p).countP q = db.transactions.rows.countP fun t =>
      decide (t.paymentId = p) && decide (q (t.type, t.status, t.amount)) := by
  rw [entries, transactionsOf, Multiset.coe_countP, List.countP_map, List.countP_filter]
  congr 1
  funext t
  simp [Bool.and_comm]

/-! ### The ledger -/

/-- What a transfer adds to an account. -/
def transferred (debitAccount creditAccount : LedgerAccountId) (amount : Amount)
    (account : LedgerAccountId) : ℤ :=
  (if debitAccount = account then (amount.units : ℤ) else 0) +
    if creditAccount = account then -(amount.units : ℤ) else 0

lemma net_transferJournal (debitAccount creditAccount : LedgerAccountId) (amount : Amount)
    (currency : String) (reference : JournalReference) (key : JournalKey) :
    (transferJournal debitAccount creditAccount amount currency reference key).net =
      transferred debitAccount creditAccount amount := by
  funext account
  simp [LedgerJournal.net, transferJournal, transferred, LedgerPosting.signed]

/-- A transfer is posted once under its key. -/
def Db.netPosted (db : Db) (key : JournalKey) (debitAccount creditAccount : LedgerAccountId)
    (amount : Amount) (account : LedgerAccountId) : ℤ :=
  if (db.ledgerJournals.row? key).isSome then db.net account
  else db.net account + transferred debitAccount creditAccount amount account

lemma Db.net_of_postJournal {db db' : Db} {debitAccount creditAccount : LedgerAccountId}
    {amount : Decimal} {stored : Amount} (hstore : Amount.store amount = .ok stored)
    {currency : String} {reference : JournalReference} {key : JournalKey} {id : ℕ}
    (hrun : postJournal db currency reference key
      (transfer debitAccount creditAccount amount currency) = .ok (id, db')) :
    db'.net = db.netPosted key debitAccount creditAccount stored := by
  funext account
  obtain ⟨-, ⟨hid, rfl⟩ | ⟨hid, -, -, -, stored', journals, hstore', hins, rfl⟩⟩ :=
    postJournal_transfer_eq_ok.mp hrun
  · obtain ⟨j, hj, -⟩ := Table.row?_of_idOf? hid
    rw [netPosted, if_pos (by simp [hj])]
  · obtain rfl := Except.ok.inj (hstore.symm.trans hstore')
    obtain ⟨hnone, hrows⟩ := Table.row?_of_insert? hins rfl
    have hnone : db.ledgerJournals.row? key = none := hnone
    rw [netPosted, if_neg (by simp [hnone])]
    simp only [net, hrows, List.map_append, List.sum_append, List.map_cons, List.map_nil,
      List.sum_cons, List.sum_nil, add_zero, net_transferJournal]

/-- The entries of a payment once its capture is posted under the key of `path`. -/
def Db.entriesCaptured (db : Db) (p : PaymentId) (path : CapturePath) (amount : Amount) :
    Multiset (TransactionType × TransactionStatus × Amount) :=
  if (db.transactions.row? (path.key p)).isSome then db.entries p
  else (.capture, .posted, amount) ::ₘ db.entries p

lemma Db.entries_of_filesCapture {db db' : Db} {p : PaymentId} {path : CapturePath}
    {amount : Decimal} {stored : Amount} (hstore : Amount.store amount = .ok stored)
    (h : db.FilesCapture db' p path amount) :
    db'.entries p = db.entriesCaptured p path stored := by
  rcases h with ⟨hrow, rfl⟩ | ⟨t, hstore', rfl, htype, hstatus, hkey, hfiles⟩
  · rw [entriesCaptured, if_pos hrow]
  · obtain rfl := Except.ok.inj (hstore.symm.trans hstore')
    have hnone : db.transactions.row? (path.key t.paymentId) = none := by
      rw [← hkey]
      exact hfiles.1
    rw [entriesCaptured, if_neg (by simp [hnone]), entries_of_files hfiles, htype, hstatus]

/-- A payment has the same entries whichever path captures it when both find a capture row, or
neither does. -/
lemma Db.entriesCaptured_eq_iff {db : Db} {p : PaymentId} {path path' : CapturePath}
    {amount : Amount} :
    db.entriesCaptured p path amount = db.entriesCaptured p path' amount ↔
      ((db.transactions.row? (path.key p)).isSome ↔
        (db.transactions.row? (path'.key p)).isSome) := by
  have hne : ∀ (entry : TransactionType × TransactionStatus × Amount)
      (entries : Multiset (TransactionType × TransactionStatus × Amount)),
      entry ::ₘ entries ≠ entries := fun entry entries heq => by
    simpa using congrArg Multiset.card heq
  unfold entriesCaptured
  by_cases h : (db.transactions.row? (path.key p)).isSome = true <;>
    by_cases h' : (db.transactions.row? (path'.key p)).isSome = true <;>
    simp [h, h', hne, (hne _ _).symm]

/-- A capture row with its journal. -/
lemma Db.postCapture_books (db : Db) {db₁ db₂ db₃ : Db}
    (htransactions : db₁.transactions = db.transactions)
    (hjournals : db₁.ledgerJournals = db.ledgerJournals) {p : PaymentId} {path : CapturePath}
    {amount : Decimal} {stored : Amount} (hstore : Amount.store amount = .ok stored)
    (hfiles : db₁.FilesCapture db₂ p path amount) {debitAccount creditAccount : LedgerAccountId}
    {currency : String} {reference : JournalReference} {id : ℕ}
    (hjournal : postJournal db₂ currency reference (.capture p)
      (transfer debitAccount creditAccount amount currency) = .ok (id, db₃)) :
    db₃.entries p = db.entriesCaptured p path stored ∧
      db₃.net = db.netPosted (.capture p) debitAccount creditAccount stored := by
  have hjournals₂ : db₂.ledgerJournals = db.ledgerJournals := by
    rcases hfiles with ⟨-, rfl⟩ | ⟨t, -, -, -, -, -, -, transactions, -, rfl⟩
    · exact hjournals
    · exact hjournals
  constructor
  · have hsame : db₃.entries p = db₂.entries p := by
      simp only [entries, transactionsOf, postJournal_transactions hjournal]
    rw [hsame, entries_of_filesCapture hstore hfiles]
    simp only [entriesCaptured, entries, transactionsOf, htransactions]
  · rw [net_of_postJournal hstore hjournal]
    funext account
    simp only [netPosted, net, hjournals₂]

/-! ### A charge -/

section Finalize

variable {db db' : Db} (h : db.Sound) {p : PaymentId} {v : PaymentView}
  (hv : view db p = some v) {r : ReservationId} {s : ReservationStatus}
  (hres : v.reservation = some (r, s)) {amount : Decimal} {currency : String}
  {accounts : LedgerAccounts} {reference : Option String}

include h hv hres

/-- What a charge that succeeds at once leaves. -/
lemma PaymentOrchestrator.finalizeSucceeded_aftermath (hstore : Amount.store amount = .ok v.amount)
    (hrun : finalizeSucceeded db p r amount currency accounts reference = .ok db') :
    aftermath db' p =
      ⟨some .succeeded, some (s.settle .consumed), db.entriesCaptured p .direct v.amount,
        db.netPosted (.capture p) accounts.customer accounts.clearing v.amount⟩ := by
  have hview := (finalizeSucceeded_effect h hv hres hstore hrun).view_some hv
  obtain ⟨hstatus, hheld⟩ := aftermath_of_view hview
  simp only [finalizeSucceeded] at hrun
  obtain ⟨db₂, hconsume, hrun⟩ := Except.bind_eq_ok.mp hrun
  obtain ⟨⟨transactionId, db₃⟩, hupsert, hrun⟩ := Except.bind_eq_ok.mp hrun
  obtain ⟨⟨journalId, db₄⟩, hjournal, hrun⟩ := Except.bind_eq_ok.mp hrun
  obtain rfl := Except.ok.inj hrun
  have h₁ := Effect.updateCharges h p (decided .succeeded reference) (fun _ => rfl)
    (fun _ => true) (fun _ => rfl) (fun _ => rfl) fun _ => rfl
  have h₂ := h₁.trans (Effect.settle h₁.sound (h₁.view_some hv) hres hconsume)
  obtain ⟨row, budgets, -, hdb₂⟩ := BudgetRepository.settle_eq_ok hconsume
  have hfiles : db₂.FilesCapture db₃ p .direct amount := by
    rcases upsertCapture_eq_ok h₂.sound hupsert with hrow | ⟨stored, hstored, hfiles⟩
    · exact .inl hrow
    · exact .inr ⟨_, hstored, rfl, rfl, rfl, rfl, hfiles⟩
  obtain ⟨hentries, hnet⟩ := Db.postCapture_books db (by rw [hdb₂]; rfl)
    (by rw [hdb₂]; rfl) hstore hfiles hjournal
  refine Aftermath.ext hstatus (hheld.trans ?_) hentries hnet
  simp [PaymentView.succeed, hres]

/-- What a charge that fails at once leaves. -/
lemma PaymentOrchestrator.finalizeFailed_aftermath
    (hrun : finalizeFailed db p r reference = .ok db') :
    aftermath db' p = ⟨some .failed, some (s.settle .released), db.entries p, db.net⟩ := by
  have hview := (finalizeFailed_effect h hv hres hrun).view_some hv
  obtain ⟨hstatus, hheld⟩ := aftermath_of_view hview
  simp only [finalizeFailed] at hrun
  obtain ⟨db₂, hrelease, hrun⟩ := Except.bind_eq_ok.mp hrun
  obtain rfl := Except.ok.inj hrun
  obtain ⟨row, budgets, -, rfl⟩ := BudgetRepository.settle_eq_ok hrelease
  refine Aftermath.ext hstatus (hheld.trans ?_) rfl rfl
  simp [PaymentView.fail, hres]

end Finalize

section Resolve

variable {db db' : Db} (h : db.Sound) {id : OperationId} {o : ProviderOperation}
  (ho : db.providerOperations.get? id = some o) (ht : o.operationType = .charge)
  {payment : Payment} {request : PaymentRequest}
  (hp : db.payments.get? o.paymentId = some payment)
  (hr : db.paymentRequests.get? payment.paymentRequestId = some request)
  {r : ReservationId} {s : ReservationStatus}
  (hres : reservationView db request = some (r, s)) {reference : Option String}

include h ho ht hp hr hres

/-- What an event leaves of a charge that succeeded. -/
lemma ProviderEventResolver.resolveSucceeded_aftermath {accounts : LedgerAccounts}
    (hrun : resolveSucceeded db id o payment request accounts reference = .ok db') :
    aftermath db' o.paymentId =
      ⟨some .succeeded, some (s.settle .consumed),
        db.entriesCaptured o.paymentId .event payment.amount,
        db.netPosted (.capture o.paymentId) accounts.customer accounts.clearing
          payment.amount⟩ := by
  have hv : view db o.paymentId = some (viewOf db o.paymentId payment request) :=
    view_eq_some.mpr ⟨payment, request, hp, hr, rfl⟩
  have hres' : (viewOf db o.paymentId payment request).reservation = some (r, s) := hres
  have hview := (resolveSucceeded_effect h ho ht hp hr hrun).2.view_some hv
  obtain ⟨hstatus, hheld⟩ := aftermath_of_view hview
  simp only [resolveSucceeded, ht, if_true] at hrun
  obtain ⟨db₂, hsettle, hrun⟩ := Except.bind_eq_ok.mp hrun
  obtain rfl := Except.ok.inj hrun
  simp only [settleCharge] at hsettle
  split at hsettle
  · cases hsettle
  rename_i reservationId hlink
  obtain ⟨db₃, hconsume, hsettle⟩ := Except.bind_eq_ok.mp hsettle
  obtain ⟨⟨transactionId, db₄⟩, hcreate, hsettle⟩ := Except.bind_eq_ok.mp hsettle
  obtain ⟨⟨journalId, db₅⟩, hjournal, hsettle⟩ := Except.bind_eq_ok.mp hsettle
  obtain rfl := Except.ok.inj hsettle
  have hfiles : db₃.FilesCapture db₄ o.paymentId .event payment.amount.toDecimal := by
    rcases createTransaction_eq_ok hcreate with ⟨t, ht', hkey, rfl⟩ | ⟨stored, hstored, -, hfiles⟩
    · refine .inl ⟨Option.isSome_iff_exists.mpr ⟨t, ?_⟩, rfl⟩
      exact Table.row?_eq_some.mpr ⟨Table.mem_of_get? ht', congrArg some hkey⟩
    · exact .inr ⟨_, hstored, rfl, rfl, rfl, rfl, hfiles⟩
  obtain ⟨row, budgets, -, hdb₃⟩ := BudgetRepository.settle_eq_ok hconsume
  obtain ⟨hentries, hnet⟩ := Db.postCapture_books db (by rw [hdb₃]; rfl)
    (by rw [hdb₃]; rfl) (Amount.store_toDecimal _) hfiles hjournal
  have hpost : postTransaction db₅ transactionId = db₅ :=
    postTransaction_created h (by rw [hdb₃]; rfl) hcreate (postJournal_transactions hjournal)
  rw [hpost] at hstatus hheld ⊢
  refine Aftermath.ext hstatus (hheld.trans ?_) hentries hnet
  simp [PaymentView.succeed, hres']

/-- What an event leaves of a charge that failed. -/
lemma ProviderEventResolver.resolveFailed_aftermath
    (hrun : resolveFailed db id o request reference = .ok db') :
    aftermath db' o.paymentId =
      ⟨some .failed, some (s.settle .released), db.entries o.paymentId, db.net⟩ := by
  have hv : view db o.paymentId = some (viewOf db o.paymentId payment request) :=
    view_eq_some.mpr ⟨payment, request, hp, hr, rfl⟩
  have hres' : (viewOf db o.paymentId payment request).reservation = some (r, s) := hres
  have hview := (resolveFailed_effect h ho ht hp hr hrun).view_some hv
  obtain ⟨hstatus, hheld⟩ := aftermath_of_view hview
  simp only [resolveFailed, ht] at hrun
  split at hrun
  · obtain ⟨db₂, hrelease, hrun⟩ := Except.bind_eq_ok.mp hrun
    obtain rfl := Except.ok.inj hrun
    obtain ⟨row, budgets, -, rfl⟩ := BudgetRepository.settle_eq_ok hrelease
    refine Aftermath.ext hstatus (hheld.trans ?_) rfl rfl
    simp [PaymentView.fail, hres']
  · obtain rfl := Except.ok.inj hrun
    refine Aftermath.ext hstatus (hheld.trans ?_) rfl rfl
    simp [PaymentView.fail, hres']

end Resolve

/-! ### The shared branch -/

/-- An event of a capture, a void or a refund writes a status, and nothing else that is left. -/
lemma aftermath_decideOperation {db : Db} {p : PaymentId} {payment : Payment}
    (hp : db.payments.get? p = some payment) (id : OperationId) (decided : OperationStatus)
    (status : PaymentStatus) (reference : Option String) :
    aftermath (PaymentRepository.updateStatus
      (ProviderEventResolver.decideOperation db id decided reference) p status reference) p =
        ⟨some status, db.heldStatus p, db.entries p, db.net⟩ := by
  have hget : (PaymentRepository.updateStatus
      (ProviderEventResolver.decideOperation db id decided reference) p status
        reference).payments.get? p =
      some (PaymentRepository.withStatus status reference payment) := by
    rw [get?_updateStatus]
    exact congrArg (Option.map _) hp
  refine Aftermath.ext ?_ ?_ rfl rfl
  · simp only [aftermath, hget]
    rfl
  · exact Db.heldStatus_congr (by rw [hget, hp]; rfl) rfl rfl

lemma ProviderEventResolver.resolveSucceeded_other {db : Db} {id : OperationId}
    {o : ProviderOperation} (ht : o.operationType ≠ .charge) (payment : Payment)
    (request : PaymentRequest) (accounts : LedgerAccounts) (reference : Option String) :
    resolveSucceeded db id o payment request accounts reference =
      .ok (PaymentRepository.updateStatus (decideOperation db id .succeeded reference) o.paymentId
        .succeeded reference) := by
  simp only [resolveSucceeded, if_neg ht]
  rfl

lemma ProviderEventResolver.resolveFailed_other {db : Db} {id : OperationId}
    {o : ProviderOperation} (ht : o.operationType ≠ .charge) (request : PaymentRequest)
    (reference : Option String) :
    resolveFailed db id o request reference =
      .ok (PaymentRepository.updateStatus (decideOperation db id .failed reference) o.paymentId
        .failed reference) := by
  simp only [resolveFailed]
  cases htype : o.operationType with
  | charge => exact absurd htype ht
  | _ => rfl

/-! ### Resolving a new event -/

/-- `ProviderOutcome.value` -/
def ProviderOutcome.value : ProviderOutcome → String
  | .succeeded => "SUCCEEDED"
  | .failed    => "FAILED"
  | .unknown   => "UNKNOWN_EXTERNAL_OUTCOME"

/-- The branch of `resolve` for an outcome. -/
def ProviderEventResolver.branch (db : Db) (id : OperationId) (o : ProviderOperation)
    (payment : Payment) (request : PaymentRequest) (accounts : LedgerAccounts)
    (reference : Option String) : ProviderOutcome → Except Error Db
  | .succeeded => resolveSucceeded db id o payment request accounts reference
  | .failed    => resolveFailed db id o request reference
  | .unknown   => .error (.valueError "unsupported provider outcome")

/-- A new event of a payment that is open runs the branch of its outcome. -/
lemma ProviderEventResolver.resolve_of_branch {db db' : Db} {event : EventId} {row : ProviderEvent}
    (hevent : db.providerEvents.get? event = some row) (hsigned : row.signatureValid = true)
    (hnew : row.processingStatus ≠ .processed) {id : OperationId} {o : ProviderOperation}
    {payment : Payment} {request : PaymentRequest}
    (hrow : operationRow db id = some (o, payment, request))
    (hopen : payment.status.Resolvable) {outcome : ProviderOutcome} {reference : Option String}
    {accounts : LedgerAccounts}
    (hbranch : branch db id o payment request accounts reference outcome = .ok db') :
    resolve db event id outcome.value reference accounts =
      .ok (.resolved, markProcessed db' event) := by
  simp only [resolve, hevent, hsigned, Bool.true_eq_false, if_false, if_neg hnew, hrow, hopen,
    not_true]
  cases outcome with
  | succeeded => exact Except.bind_eq_ok.mpr ⟨db', hbranch, rfl⟩
  | failed => exact Except.bind_eq_ok.mpr ⟨db', hbranch, rfl⟩
  | unknown => cases hbranch

@[simp] lemma aftermath_markProcessed (db : Db) (event : EventId) (p : PaymentId) :
    aftermath (markProcessed db event) p = aftermath db p := rfl

/-! ### Operations -/

/-- An operation of a payment, with what its call takes. -/
inductive ExternalOperation where
  | charge (requestId : RequestId) (reservationId : ReservationId) (amount : Decimal)
      (currency : String) (reference : Option String)
  | capture (amount : Decimal) (currency : String)
  | void (amount : Decimal) (currency : String)
  | refund (amount : Decimal) (currency : String)

namespace ExternalOperation

/-- The operation with the provider's answer. -/
def run (db : Db) (p : PaymentId) (accounts : LedgerAccounts) (outcome : ProviderOutcome) :
    ExternalOperation → Except Error (PaymentStatus × Db)
  | .charge requestId reservationId amount currency reference =>
    PaymentOrchestrator.finalize db p requestId reservationId amount currency accounts outcome
      reference
  | .capture amount currency =>
    PaymentLifecycle.capture db p amount currency accounts >>= Progress.answer outcome
  | .void amount currency =>
    PaymentLifecycle.void db p amount currency >>= Progress.answer outcome
  | .refund amount currency =>
    PaymentLifecycle.refund db p amount currency accounts >>= Progress.answer outcome

/-- The key of its row in `provider_operations`. -/
def key (p : PaymentId) : ExternalOperation → OperationKey
  | .charge ..              => .charge p
  | .capture ..             => .capture p
  | .void ..                => .void p
  | .refund amount currency => .refund p amount currency

/-- A charge is finalized with the reservation of its request. -/
def Linked (db : Db) (p : PaymentId) : ExternalOperation → Prop
  | .charge _ reservationId .. => ∃ payment request, db.payments.get? p = some payment ∧
      db.paymentRequests.get? payment.paymentRequestId = some request ∧
      request.budgetReservationId = some reservationId
  | _ => True

/-- When the two ways of learning the outcome agree: for a charge, unless a capture is on the
books under one of the two keys only; for a capture, only when it failed before. -/
def Agrees (db : Db) (p : PaymentId) (outcome : ProviderOutcome) : ExternalOperation → Prop
  | .charge .. => outcome = .succeeded →
      ((db.transactions.row? (.capture p)).isSome ↔
        (db.transactions.row? (.eventCapture p)).isSome)
  | .capture .. => outcome = .failed ∧ (db.transactions.row? (.captureFailed p)).isSome
  | .void .. | .refund .. => False

end ExternalOperation

/-- The rows that an event of an unanswered operation finds. -/
lemma Db.Sound.unanswered {db : Db} (h : db.Sound) {k : OperationKey} {id : OperationId}
    (hop : db.providerOperations.idOf? k = some id) {payment : Payment}
    (hp : db.payments.get? k.paymentId = some payment) :
    ∃ o request, db.providerOperations.get? id = some o ∧ o.paymentId = k.paymentId ∧
      o.operationType = k.operationType ∧
      db.paymentRequests.get? payment.paymentRequestId = some request ∧
      ProviderEventResolver.operationRow db id = some (o, payment, request) := by
  obtain ⟨o, ho, hkey⟩ := Table.idOf?_get? hop
  have hkey : o.idempotencyKey = k := by simpa using hkey
  have hfiled := (h.operation o (Table.mem_of_get? ho)).1
  have hpayment : o.paymentId = k.paymentId := by rw [hfiled.payment, hkey]
  obtain ⟨request, hr⟩ := h.request _ payment hp
  refine ⟨o, request, ho, hpayment, by rw [hfiled.type, hkey], hr, ?_⟩
  simp [ProviderEventResolver.operationRow, ho, hpayment, hp, hr]

namespace PaymentOrchestrator

variable {db db' : Db} {p : PaymentId} {payment : Payment} {requestId : RequestId}
  {reservationId : ReservationId} {amount : Decimal} {currency : String}
  {accounts : LedgerAccounts} {reference : Option String} {status : PaymentStatus}

/-- An answer UNKNOWN is taken of a payment that can still be decided. -/
lemma finalize_unknown_eq_ok (hp : db.payments.get? p = some payment)
    (hrun : finalize db p requestId reservationId amount currency accounts .unknown reference =
      .ok (status, db')) :
    payment.amount.toDecimal.units = amount.units ∧
      (payment.status = .unknownExternalOutcome ∧ db' = db ∨
        payment.status.Executable ∧ db' = finalizeUnknown db p reservationId reference) := by
  simp only [finalize, hp] at hrun
  split_ifs at hrun with hreq hbinds hsucc hfail hunknown hexec
  · exact absurd hsucc.2 (by decide)
  · exact absurd hfail.2 (by decide)
  · obtain ⟨-, rfl⟩ := Prod.mk.inj (Except.ok.inj hrun)
    exact ⟨not_not.mp fun hne => hbinds (.inl hne), .inl ⟨hunknown.1, rfl⟩⟩
  · obtain ⟨-, rfl⟩ := Prod.mk.inj (Except.ok.inj hrun)
    exact ⟨not_not.mp fun hne => hbinds (.inl hne), .inr ⟨hexec, rfl⟩⟩

/-- A definitive answer decides such a payment. -/
lemma finalize_succeeded_eq_ok (hp : db.payments.get? p = some payment)
    (hexec : payment.status.Executable)
    (hrun : finalize db p requestId reservationId amount currency accounts .succeeded reference =
      .ok (status, db')) :
    finalizeSucceeded db p reservationId amount currency accounts reference = .ok db' := by
  simp only [finalize, hp] at hrun
  split_ifs at hrun with hreq hbinds hsucc hfail hunknown
  · rw [hsucc.1] at hexec
    exact absurd hexec (by decide)
  · exact absurd hfail.2 (by decide)
  · exact absurd hunknown.2 (by decide)
  · obtain ⟨db₁, hdone, hrun⟩ := Except.bind_eq_ok.mp hrun
    obtain ⟨-, rfl⟩ := Prod.mk.inj (Except.ok.inj hrun)
    exact hdone

lemma finalize_failed_eq_ok (hp : db.payments.get? p = some payment)
    (hexec : payment.status.Executable)
    (hrun : finalize db p requestId reservationId amount currency accounts .failed reference =
      .ok (status, db')) :
    finalizeFailed db p reservationId reference = .ok db' := by
  simp only [finalize, hp] at hrun
  split_ifs at hrun with hreq hbinds hsucc hfail hunknown
  · exact absurd hsucc.2 (by decide)
  · rw [hfail.1] at hexec
    exact absurd hexec (by decide)
  · exact absurd hunknown.2 (by decide)
  · obtain ⟨db₁, hdone, hrun⟩ := Except.bind_eq_ok.mp hrun
    obtain ⟨-, rfl⟩ := Prod.mk.inj (Except.ok.inj hrun)
    exact hdone

end PaymentOrchestrator

/-- What the two ways of learning the outcome of an operation start from: the answer UNKNOWN has
been taken, its operation row is found, and a new signed event is recorded. -/
structure Unanswered (db : Db) (p : PaymentId) (accounts : LedgerAccounts)
    (op : ExternalOperation) (db' : Db) (id : OperationId) (event : EventId) : Prop where
  taken : ∃ unresolved providerEvents,
    op.run db p accounts .unknown = .ok (.unknownExternalOutcome, unresolved) ∧
      db' = { unresolved with providerEvents }
  operation : db'.providerOperations.idOf? (op.key p) = some id
  event : ∃ row, db'.providerEvents.get? event = some row ∧ row.signatureValid = true ∧
    row.processingStatus ≠ .processed

section Charge

variable {db now db' : Db} (h : db.Sound) (hagree : db.BudgetsAgree) {p : PaymentId}
  {requestId : RequestId} {r : ReservationId} {amount : Decimal} {currency : String}
  {answered : Option String} {accounts : LedgerAccounts} (hknown : accounts.Known db)
  {id : OperationId} {event : EventId}

include h

/-- An answer UNKNOWN leaves a charge open, with its rows as they were. -/
lemma Unanswered.charge_rows {payment : Payment} (hp : db.payments.get? p = some payment)
    (hunanswered : Unanswered db p accounts (.charge requestId r amount currency answered) db' id
      event) :
    payment.amount.toDecimal.units = amount.units ∧ payment.status.Executable ∧ db'.Sound ∧
      (∃ payment', db'.payments.get? p = some payment' ∧
        payment'.status = .unknownExternalOutcome ∧
        payment'.paymentRequestId = payment.paymentRequestId ∧ payment'.amount = payment.amount) ∧
      db'.paymentRequests = db.paymentRequests ∧ db'.budgets = db.budgets ∧
      db'.budgetReservations = db.budgetReservations ∧ db'.transactions = db.transactions ∧
      db'.ledgerJournals = db.ledgerJournals ∧ db'.ledgerAccounts = db.ledgerAccounts := by
  obtain ⟨db₁, events, hunknown, rfl⟩ := hunanswered.taken
  have hunknown : PaymentOrchestrator.finalize db p requestId r amount currency accounts .unknown
      answered = .ok (.unknownExternalOutcome, db₁) := hunknown
  obtain ⟨hunits, ⟨hstatus, rfl⟩ | ⟨hexec, rfl⟩⟩ :=
    PaymentOrchestrator.finalize_unknown_eq_ok hp hunknown
  · exact ⟨hunits, .inr hstatus, h.providerEvents events, ⟨payment, hp, hstatus, rfl, rfl⟩, rfl,
      rfl, rfl, rfl, rfl, rfl⟩
  · have hsound : (PaymentOrchestrator.finalizeUnknown db p r answered).Sound :=
      (PaymentOrchestrator.finalizeUnknown_effect h p).sound
    refine ⟨hunits, hexec, hsound.providerEvents events,
      ⟨PaymentRepository.withStatus .unknownExternalOutcome answered payment, ?_, rfl, rfl, rfl⟩,
      rfl, rfl, rfl, rfl, rfl, rfl⟩
    exact (get?_updateStatus _ p .unknownExternalOutcome answered).trans (by
      show (db.payments.get? p).map _ = _
      rw [hp]
      rfl)

include hagree hknown

/-- A charge is decided alike, except for the key of its capture. -/
lemma charge_agrees_iff
    (hlinked : (ExternalOperation.charge requestId r amount currency answered).Linked db p)
    (hunanswered : Unanswered db p accounts (.charge requestId r amount currency answered)
      db' id event) {outcome : ProviderOutcome} (hdefinitive : outcome ≠ .unknown)
    {status : PaymentStatus}
    (hnow : (ExternalOperation.charge requestId r amount currency answered).run db p accounts
      outcome = .ok (status, now)) (reference : Option String) :
    ∃ later, ProviderEventResolver.resolve db' event id outcome.value reference accounts =
        .ok (.resolved, later) ∧
      (aftermath later p = aftermath now p ↔
        (ExternalOperation.charge requestId r amount currency answered).Agrees db p outcome) := by
  obtain ⟨payment, request, hp, hr, hlink⟩ := hlinked
  have hview : view db p = some (viewOf db p payment request) :=
    view_eq_some.mpr ⟨payment, request, hp, hr, rfl⟩
  obtain ⟨s, hres⟩ := h.reservationView_eq hr hlink
  obtain ⟨hunits, hexec, h', ⟨payment', hp', hstatus, hrequest, hamount⟩, hrequests, hbudgets,
    hreservations, htransactions, hjournals, haccounts⟩ := hunanswered.charge_rows h hp
  have hstore : Amount.store amount = .ok payment.amount :=
    Amount.store_of_units (by rw [← hunits, Amount.units_toDecimal])
  obtain ⟨row, hevent, hsigned, hnew⟩ := hunanswered.event
  obtain ⟨o, request', ho, hpayment, htype, hr', hrow⟩ := h'.unanswered hunanswered.operation hp'
  have hpayment : o.paymentId = p := hpayment
  have htype : o.operationType = .charge := htype
  obtain rfl : request = request' := by
    rw [hrequest, hrequests, hr] at hr'
    exact Option.some.inj hr'
  have hres' : reservationView db' request = some (r, s) := by
    rw [← hres, reservationView, reservationView, hreservations]
  have hopen : payment'.status.Resolvable := .inl hstatus
  have hagree' : db'.BudgetsAgree := hagree.congr hbudgets hreservations
  have hknown' : accounts.Known db' := by rwa [LedgerAccounts.Known, haccounts]
  cases outcome with
  | unknown => exact absurd rfl hdefinitive
  | failed =>
    obtain ⟨later, hlater⟩ := ProviderEventResolver.resolveFailed_ok h' hagree' id htype hr' hlink
      reference
    refine ⟨_, ProviderEventResolver.resolve_of_branch hevent hsigned hnew hrow hopen hlater, ?_⟩
    have hdone := ProviderEventResolver.resolveFailed_aftermath h' ho htype (by rwa [hpayment]) hr'
      hres' hlater
    have hnow : PaymentOrchestrator.finalize db p requestId r amount currency accounts .failed
        answered = .ok (status, now) := hnow
    have hnow := PaymentOrchestrator.finalize_failed_eq_ok hp hexec hnow
    rw [hpayment] at hdone
    rw [aftermath_markProcessed, hdone,
      PaymentOrchestrator.finalizeFailed_aftermath h hview hres hnow]
    refine iff_of_true ?_ fun hfailed => absurd hfailed (by decide)
    refine Aftermath.ext rfl rfl ?_ ?_
    · simp only [Db.entries, Db.transactionsOf, htransactions]
    · funext account
      simp only [Db.net, hjournals]
  | succeeded =>
    obtain ⟨later, hlater⟩ := ProviderEventResolver.resolveSucceeded_ok h' hagree' id htype hr'
      hlink hknown' reference
    refine ⟨_, ProviderEventResolver.resolve_of_branch hevent hsigned hnew hrow hopen hlater, ?_⟩
    have hdone := ProviderEventResolver.resolveSucceeded_aftermath h' ho htype (by rwa [hpayment])
      hr' hres' hlater
    have hnow : PaymentOrchestrator.finalize db p requestId r amount currency accounts .succeeded
        answered = .ok (status, now) := hnow
    have hnow := PaymentOrchestrator.finalize_succeeded_eq_ok hp hexec hnow
    rw [hpayment] at hdone
    rw [aftermath_markProcessed, hdone,
      PaymentOrchestrator.finalizeSucceeded_aftermath h hview hres hstore hnow]
    have hentries : db'.entriesCaptured p .event payment'.amount =
        db.entriesCaptured p .event payment.amount := by
      simp only [Db.entriesCaptured, Db.entries, Db.transactionsOf, htransactions, hamount]
    have hnet : db'.netPosted (.capture p) accounts.customer accounts.clearing payment'.amount =
        db.netPosted (.capture p) accounts.customer accounts.clearing payment.amount := by
      funext account
      simp only [Db.netPosted, Db.net, hjournals, hamount]
    rw [hentries, hnet]
    constructor
    · intro heq _
      exact (Db.entriesCaptured_eq_iff.mp (congrArg Aftermath.transactions heq)).symm
    · intro hsame
      exact Aftermath.ext rfl rfl (Db.entriesCaptured_eq_iff.mpr (hsame rfl).symm) rfl

end Charge

/-! ### A capture, a void or a refund -/

/-- An event of another operation writes the status of its outcome. -/
lemma resolve_other {db : Db} (h : db.Sound) {k : OperationKey} (hother : k.operationType ≠ .charge)
    {id : OperationId} (hop : db.providerOperations.idOf? k = some id) {payment : Payment}
    (hp : db.payments.get? k.paymentId = some payment)
    (hstatus : payment.status = .unknownExternalOutcome) {event : EventId}
    (hevent : ∃ row, db.providerEvents.get? event = some row ∧ row.signatureValid = true ∧
      row.processingStatus ≠ .processed) {outcome : ProviderOutcome}
    (hdefinitive : outcome ≠ .unknown) (accounts : LedgerAccounts) (reference : Option String) :
    ∃ later, ProviderEventResolver.resolve db event id outcome.value reference accounts =
        .ok (.resolved, later) ∧
      aftermath later k.paymentId =
        (aftermath db k.paymentId).withStatus outcome.paymentStatus := by
  obtain ⟨row, hevent, hsigned, hnew⟩ := hevent
  obtain ⟨o, request, -, hpayment, htype, -, hrow⟩ := h.unanswered hop hp
  have hne : o.operationType ≠ .charge := by rwa [htype]
  have hopen : payment.status.Resolvable := .inl hstatus
  cases outcome with
  | unknown => exact absurd rfl hdefinitive
  | succeeded =>
    refine ⟨_, ProviderEventResolver.resolve_of_branch hevent hsigned hnew hrow hopen
      (ProviderEventResolver.resolveSucceeded_other hne payment request accounts reference), ?_⟩
    rw [hpayment]
    exact aftermath_decideOperation hp id .succeeded .succeeded reference
  | failed =>
    refine ⟨_, ProviderEventResolver.resolve_of_branch hevent hsigned hnew hrow hopen
      (ProviderEventResolver.resolveFailed_other hne request reference), ?_⟩
    rw [hpayment]
    exact aftermath_decideOperation hp id .failed .failed reference

/-- The status is all that a status update changes of what is left. -/
lemma aftermath_updateStatus {db : Db} {p : PaymentId} {payment : Payment}
    (hp : db.payments.get? p = some payment) (status : PaymentStatus)
    (reference : Option String) :
    aftermath (PaymentRepository.updateStatus db p status reference) p =
      (aftermath db p).withStatus status := by
  have hget : (PaymentRepository.updateStatus db p status reference).payments.get? p =
      some (PaymentRepository.withStatus status reference payment) := by
    rw [get?_updateStatus, hp]
    rfl
  refine Aftermath.ext ?_ ?_ rfl rfl
  · simp only [aftermath, hget]
    rfl
  · exact Db.heldStatus_congr (by rw [hget, hp]; rfl) rfl rfl

/-- The row of an operation is not part of what is left. -/
lemma aftermath_createProviderOperation {db db' : Db} {p : PaymentId} {payment : Payment}
    (hp : db.payments.get? p = some payment) {type : OperationType} {key : OperationKey}
    {id : OperationId}
    (hrun : PaymentRepository.createProviderOperation db p type key = .ok (id, db')) :
    aftermath db' p = aftermath db p ∧ db'.transactions = db.transactions ∧
      db'.payments.get? p = some { payment with providerOperationId := some id } := by
  have hset : ∀ operations,
      aftermath (PaymentRepository.setProviderOperation
        { db with providerOperations := operations } p id) p = aftermath db p ∧
      (PaymentRepository.setProviderOperation
        { db with providerOperations := operations } p id).payments.get? p =
          some { payment with providerOperationId := some id } := by
    intro operations
    have hget := (Table.get?_update_self db.payments p
      (fun payment => { payment with providerOperationId := some id }) fun _ => rfl).trans
        (congrArg (Option.map _) hp)
    refine ⟨Aftermath.ext ?_ ?_ rfl rfl, hget⟩
    · exact (congrArg (Option.map (·.status)) hget).trans
        (congrArg (Option.map (·.status)) hp).symm
    · exact Db.heldStatus_congr ((congrArg (Option.map (·.paymentRequestId)) hget).trans
        (congrArg (Option.map (·.paymentRequestId)) hp).symm) rfl rfl
  rcases PaymentRepository.createProviderOperation_eq_ok hrun with ⟨operations, -, -, rfl⟩ |
    ⟨-, rfl⟩
  · exact ⟨(hset operations).1, rfl, (hset operations).2⟩
  · exact ⟨(hset db.providerOperations).1, rfl, (hset db.providerOperations).2⟩

/-- `_create_transaction` adds an entry, unless its key is taken. -/
lemma aftermath_createTransaction {db db' : Db} {p : PaymentId}
    {type : TransactionType} {amount : Decimal} {stored : Amount}
    (hstore : Amount.store amount = .ok stored) {currency : String} {key : TransactionKey}
    {status : TransactionStatus} {id : TransactionId}
    (hrun : PaymentLifecycle.createTransaction db p type amount currency key status =
      .ok (id, db')) :
    aftermath db' p = { aftermath db p with
      transactions := if (db.transactions.row? key).isSome then db.entries p
        else (type, status, stored) ::ₘ db.entries p } := by
  rcases PaymentLifecycle.createTransaction_eq_ok hrun with
    ⟨t, ht, hkey, hdb⟩ | ⟨stored', hstore', -, hfiles⟩
  · have hrow : db.transactions.row? key = some t :=
      Table.row?_eq_some.mpr ⟨Table.mem_of_get? ht, congrArg some hkey⟩
    rw [hdb, if_pos (by simp [hrow])]
    rfl
  · obtain rfl := Except.ok.inj (hstore.symm.trans hstore')
    have hnone : db.transactions.row? key = none := hfiles.1
    have hentries := Db.entries_of_files hfiles
    rw [if_neg (by simp [hnone])]
    obtain ⟨-, transactions, -, rfl⟩ := hfiles
    exact Aftermath.ext rfl rfl hentries rfl

lemma PaymentLifecycle.createTransaction_payments {db db' : Db} {p : PaymentId}
    {type : TransactionType} {amount : Decimal} {currency : String} {key : TransactionKey}
    {status : TransactionStatus} {id : TransactionId}
    (hrun : createTransaction db p type amount currency key status = .ok (id, db')) :
    db'.payments = db.payments := by
  rcases createTransaction_eq_ok hrun with ⟨t, -, -, hdb⟩ | ⟨stored, -, -, -, transactions, -, hdb⟩
  · rw [hdb]
  · rw [hdb]

/-- An operation without an answer leaves the rows of its call, and its event their status. -/
lemma resolve_unanswered {db : Db} {k : OperationKey} (hother : k.operationType ≠ .charge)
    {payment : Payment} (hp : db.payments.get? k.paymentId = some payment)
    (hsound : (PaymentRepository.updateStatus db k.paymentId .unknownExternalOutcome none).Sound)
    {events : Table ProviderEvent ProviderEvent.key} {id : OperationId}
    (hop : db.providerOperations.idOf? k = some id) {event : EventId}
    (hevent : ∃ row, events.get? event = some row ∧ row.signatureValid = true ∧
      row.processingStatus ≠ .processed) {outcome : ProviderOutcome}
    (hdefinitive : outcome ≠ .unknown) (accounts : LedgerAccounts) (reference : Option String) :
    ∃ later, ProviderEventResolver.resolve
        { PaymentRepository.updateStatus db k.paymentId .unknownExternalOutcome none with
          providerEvents := events } event id outcome.value reference accounts =
        .ok (.resolved, later) ∧
      aftermath later k.paymentId =
        (aftermath db k.paymentId).withStatus outcome.paymentStatus := by
  obtain ⟨later, hresolve, hlater⟩ := resolve_other (hsound.providerEvents events) hother hop
    ((get?_updateStatus db k.paymentId .unknownExternalOutcome none).trans
      (congrArg (Option.map _) hp)) rfl hevent hdefinitive accounts reference
  have hdecided := congrArg (Aftermath.withStatus outcome.paymentStatus)
    (aftermath_updateStatus hp .unknownExternalOutcome none)
  exact ⟨later, hresolve, hlater.trans hdecided⟩

section Lifecycle

variable {db now db' : Db} (h : db.Sound) {p : PaymentId} {amount : Decimal} {currency : String}
  {accounts : LedgerAccounts} {id : OperationId} {event : EventId} {outcome : ProviderOutcome}
  (hdefinitive : outcome ≠ .unknown) {status : PaymentStatus}

include h hdefinitive

/-- A capture that fails is failed alike only when it has failed before; a capture that succeeds
never is. -/
lemma capture_agrees_iff
    (hfresh : ∀ v, view db p = some v → v.status = .authorized →
      v.transactions.capture .direct = false)
    (hunanswered : Unanswered db p accounts (.capture amount currency) db' id event)
    (hnow : (ExternalOperation.capture amount currency).run db p accounts outcome =
      .ok (status, now)) (reference : Option String) :
    ∃ later, ProviderEventResolver.resolve db' event id outcome.value reference accounts =
        .ok (.resolved, later) ∧
      (aftermath later p = aftermath now p ↔
        (ExternalOperation.capture amount currency).Agrees db p outcome) := by
  obtain ⟨db₂, events, hunknown, rfl⟩ := hunanswered.taken
  obtain ⟨progress, hprogress, hunknown⟩ := Except.bind_eq_ok.mp hunknown
  obtain ⟨progress', hprogress', hnow⟩ := Except.bind_eq_ok.mp hnow
  obtain rfl := Except.ok.inj (hprogress.symm.trans hprogress')
  have hsound : db₂.Sound := by
    obtain ⟨f, heffect, -⟩ := PaymentLifecycle.capture_moves h hprogress hunknown
    exact heffect.sound
  rcases PaymentLifecycle.capture_eq_ok hprogress with
    rfl | ⟨payment, operationId, db₁, minor, hp, hauth, hvalid, hcreated, -, rfl⟩
  · exact absurd (Prod.mk.inj (Except.ok.inj hunknown)).1 (by decide)
  obtain ⟨hafter, htransactions, hp₁⟩ := aftermath_createProviderOperation hp hcreated
  obtain ⟨-, rfl⟩ := Prod.mk.inj (Except.ok.inj hunknown)
  obtain ⟨later, hresolve, hlater⟩ := resolve_unanswered (k := .capture p)
    (fun hcharge => OperationType.noConfusion hcharge) hp₁ hsound hunanswered.operation
    hunanswered.event hdefinitive accounts reference
  refine ⟨later, hresolve, ?_⟩
  have hlater : aftermath later p = (aftermath db p).withStatus outcome.paymentStatus :=
    hlater.trans (congrArg _ hafter)
  rw [hlater]
  obtain ⟨-, hunits, -, -⟩ := PaymentLifecycle.validateOperationAmount_eq_ok hvalid
  have hstore : Amount.store amount = .ok payment.amount :=
    Amount.store_of_units (by rw [hunits, Amount.units_toDecimal])
  cases outcome with
  | unknown => exact absurd rfl hdefinitive
  | succeeded =>
    obtain ⟨⟨transactionId, db₃⟩, hcreate, hnow⟩ := Except.bind_eq_ok.mp hnow
    obtain ⟨⟨journalId, db₄⟩, hjournal, hnow⟩ := Except.bind_eq_ok.mp hnow
    obtain ⟨-, rfl⟩ := Prod.mk.inj (Except.ok.inj hnow)
    have hfree : (db₁.transactions.row? (.capture p)).isSome = false := by
      obtain ⟨request, hr⟩ := h.request p payment hp
      have hv : view db p = some (viewOf db p payment request) :=
        view_eq_some.mpr ⟨payment, request, hp, hr, rfl⟩
      rw [htransactions]
      exact hfresh _ hv hauth
    have hentries := congrArg Aftermath.transactions (aftermath_createTransaction hstore hcreate)
    rw [if_neg (by simp [hfree])] at hentries
    refine iff_of_false (fun heq => ?_) fun hagrees => absurd hagrees.1 (by decide)
    have heq : db.entries p = db₄.entries p := congrArg Aftermath.transactions heq
    have hjournaled : db₄.entries p = db₃.entries p := by
      simp only [Db.entries, Db.transactionsOf, postJournal_transactions hjournal]
    have hsame : db₁.entries p = db.entries p := congrArg Aftermath.transactions hafter
    rw [hjournaled, show db₃.entries p = _ from hentries, hsame] at heq
    simpa using congrArg Multiset.card heq
  | failed =>
    obtain ⟨⟨transactionId, db₃⟩, hcreate, hnow⟩ := Except.bind_eq_ok.mp hnow
    obtain ⟨-, rfl⟩ := Prod.mk.inj (Except.ok.inj hnow)
    have hnow := aftermath_createTransaction hstore hcreate
    have hrow : (PaymentRepository.updateStatus db₁ p .failed none).transactions =
      db.transactions := htransactions
    have hentries : (PaymentRepository.updateStatus db₁ p .failed none).entries p =
      db.entries p := congrArg Aftermath.transactions hafter
    rw [aftermath_updateStatus hp₁, hafter, hrow, hentries] at hnow
    rw [hnow]
    constructor
    · intro heq
      refine ⟨rfl, ?_⟩
      have heq := congrArg Aftermath.transactions heq
      by_contra hfree
      rw [if_neg hfree] at heq
      simpa [aftermath, Aftermath.withStatus] using congrArg Multiset.card heq
    · rintro ⟨-, htaken⟩
      rw [if_pos htaken]
      rfl

/-- A void never is: its event leaves SUCCEEDED or FAILED where the answer leaves VOIDED or
VOID_FAILED. -/
lemma void_disagrees
    (hunanswered : Unanswered db p accounts (.void amount currency) db' id event)
    (hnow : (ExternalOperation.void amount currency).run db p accounts outcome =
      .ok (status, now)) (reference : Option String) :
    ∃ later, ProviderEventResolver.resolve db' event id outcome.value reference accounts =
        .ok (.resolved, later) ∧ aftermath later p ≠ aftermath now p := by
  obtain ⟨db₂, events, hunknown, rfl⟩ := hunanswered.taken
  obtain ⟨progress, hprogress, hunknown⟩ := Except.bind_eq_ok.mp hunknown
  obtain ⟨progress', hprogress', hnow⟩ := Except.bind_eq_ok.mp hnow
  obtain rfl := Except.ok.inj (hprogress.symm.trans hprogress')
  have hsound : db₂.Sound := by
    obtain ⟨f, heffect, -⟩ := PaymentLifecycle.void_moves h hprogress hunknown
    exact heffect.sound
  rcases PaymentLifecycle.void_eq_ok hprogress with
    rfl | ⟨payment, operationId, db₁, minor, hp, hauth, hvalid, hcreated, -, rfl⟩
  · exact absurd (Prod.mk.inj (Except.ok.inj hunknown)).1 (by decide)
  obtain ⟨hafter, -, hp₁⟩ := aftermath_createProviderOperation
    ((get?_updateStatus db p .voidRequested none).trans (congrArg (Option.map _) hp)) hcreated
  obtain ⟨-, rfl⟩ := Prod.mk.inj (Except.ok.inj hunknown)
  obtain ⟨later, hresolve, hlater⟩ := resolve_unanswered (k := .void p)
    (fun hcharge => OperationType.noConfusion hcharge) hp₁ hsound hunanswered.operation
    hunanswered.event hdefinitive accounts reference
  refine ⟨later, hresolve, fun heq => ?_⟩
  have hstatus : some outcome.paymentStatus = (aftermath now p).status := by
    rw [← heq]
    exact (congrArg Aftermath.status hlater).symm
  obtain ⟨-, hunits, -, -⟩ := PaymentLifecycle.validateOperationAmount_eq_ok hvalid
  have hstore : Amount.store amount = .ok payment.amount :=
    Amount.store_of_units (by rw [hunits, Amount.units_toDecimal])
  cases outcome with
  | unknown => exact hdefinitive rfl
  | succeeded =>
    obtain ⟨⟨transactionId, db₃⟩, hcreate, hnow⟩ := Except.bind_eq_ok.mp hnow
    obtain ⟨-, rfl⟩ := Prod.mk.inj (Except.ok.inj hnow)
    rw [← PaymentLifecycle.createTransaction_payments hcreate] at hp₁
    rw [aftermath_updateStatus hp₁] at hstatus
    exact absurd (Option.some.inj hstatus) (by decide)
  | failed =>
    obtain ⟨⟨transactionId, db₃⟩, hcreate, hnow⟩ := Except.bind_eq_ok.mp hnow
    obtain ⟨-, rfl⟩ := Prod.mk.inj (Except.ok.inj hnow)
    rw [aftermath_createTransaction hstore hcreate, aftermath_updateStatus hp₁] at hstatus
    exact absurd (Option.some.inj hstatus) (by decide)

/-- A refund never is: its event leaves the PENDING row. -/
lemma refund_disagrees
    (hunanswered : Unanswered db p accounts (.refund amount currency) db' id event)
    (hnow : (ExternalOperation.refund amount currency).run db p accounts outcome =
      .ok (status, now)) (reference : Option String) :
    ∃ later, ProviderEventResolver.resolve db' event id outcome.value reference accounts =
        .ok (.resolved, later) ∧ aftermath later p ≠ aftermath now p := by
  obtain ⟨db₃, events, hunknown, rfl⟩ := hunanswered.taken
  obtain ⟨progress, hprogress, hunknown⟩ := Except.bind_eq_ok.mp hunknown
  obtain ⟨progress', hprogress', hnow⟩ := Except.bind_eq_ok.mp hnow
  obtain rfl := Except.ok.inj (hprogress.symm.trans hprogress')
  have hsound : db₃.Sound := by
    obtain ⟨f, heffect, -⟩ := PaymentLifecycle.refund_moves h hprogress hunknown
    exact heffect.sound
  rcases PaymentLifecycle.refund_eq_ok hprogress with
    ⟨replayed, rfl, hreplayed⟩ | ⟨payment, operationId, db₁, refundId, db₂, minor, hp, -, -, -,
      hpending, -, hcreated, hcreate, -, rfl⟩
  · exact absurd (Prod.mk.inj (Except.ok.inj hunknown)).1 hreplayed
  obtain ⟨hafter, htransactions, hp₁⟩ := aftermath_createProviderOperation
    ((get?_updateStatus db p .refundProcessing none).trans (congrArg (Option.map _) hp)) hcreated
  obtain ⟨t, ht, htp, htype, hstatus⟩ : ∃ t, db₂.transactions.get? refundId = some t ∧
      t.paymentId = p ∧ t.type = .refund ∧ t.status = .pending := by
    rcases PaymentLifecycle.createTransaction_eq_ok hcreate with
      ⟨t, ht, hkey, hdb⟩ | ⟨stored, -, hid, -, transactions, hrows, hdb⟩
    · rw [htransactions] at ht
      have ht : db.transactions.get? refundId = some t := ht
      have hfiled := (h.transaction t (Table.mem_of_get? ht)).1
      refine ⟨t, ?_, ?_, ?_, ?_⟩
      · rw [hdb, htransactions]
        exact ht
      · rw [hfiled.payment, hkey]
        rfl
      · rw [hfiled.type, hkey]
        rfl
      · exact hpending t (Table.row?_eq_some.mpr ⟨Table.mem_of_get? ht, congrArg some hkey⟩)
    · rw [hdb, hid]
      exact ⟨_, (Table.get?_of_rows_append hrows _).trans (if_pos rfl), rfl, rfl, rfl⟩
  rw [← PaymentLifecycle.createTransaction_payments hcreate] at hp₁
  obtain ⟨-, rfl⟩ := Prod.mk.inj (Except.ok.inj hunknown)
  obtain ⟨later, hresolve, hlater⟩ := resolve_unanswered (k := .refund p amount currency)
    (fun hcharge => OperationType.noConfusion hcharge) hp₁ hsound hunanswered.operation
    hunanswered.event hdefinitive accounts reference
  refine ⟨later, hresolve, fun heq => ?_⟩
  rw [show aftermath later p = _ from hlater] at heq
  cases outcome with
  | unknown => exact hdefinitive rfl
  | failed =>
    obtain ⟨-, rfl⟩ := Prod.mk.inj (Except.ok.inj hnow)
    have hset : (PaymentLifecycle.setTransactionStatus db₂ refundId .failed).payments.get? p =
      some _ := hp₁
    rw [aftermath_updateStatus hset] at heq
    exact absurd (Option.some.inj (congrArg Aftermath.status heq)) (by decide)
  | succeeded =>
    obtain ⟨⟨journalId, db₄⟩, hjournal, hnow⟩ := Except.bind_eq_ok.mp hnow
    obtain ⟨-, rfl⟩ := Prod.mk.inj (Except.ok.inj hnow)
    have heq : db₂.entries p = db₄.entries p := congrArg Aftermath.transactions heq
    have hcount := congrArg (Multiset.countP fun e => e.1 = .refund ∧ e.2.1 = .posted) heq
    rw [Db.countP_entries, Db.countP_entries, postJournal_transactions hjournal] at hcount
    have hmodify := countP_modify (fun u : Transaction => decide (u.paymentId = p) &&
      decide (u.type = .refund ∧ u.status = .posted)) (fun u => { u with status := .posted }) ht
    simp only [htp, htype, hstatus, decide_true, Bool.true_and, true_and, reduceCtorEq,
      decide_false, Bool.false_eq_true, if_false, if_true, add_zero] at hmodify
    have hposted : (PaymentLifecycle.setTransactionStatus db₂ refundId .posted).transactions.rows =
      db₂.transactions.rows.modify refundId fun u => { u with status := .posted } := rfl
    rw [hposted] at hcount
    dsimp only at hcount
    omega

end Lifecycle

/-! ### Every operation -/

/-- An AUTHORIZED payment has not been captured. -/
lemma State.Reachable.uncaptured {env : Env} {s : State} (hs : s.Reachable env) {p : PaymentId}
    {v : PaymentView} (hv : view s.db p = some v) (hauth : v.status = .authorized) :
    v.transactions.capture .direct = false := by
  refine hs.views (J := fun v => v.status = .authorized → v.transactions.capture .direct = false)
    ?_ ?_ ?_ hv hauth
  · intro v hblank _
    rw [hblank.transactions]
    rfl
  · intro v hcreated _
    rw [hcreated.transactions]
    rfl
  · intro op v v' _ hJ hstep hauth
    cases hstep with
    | deny | approve | mark | finalizeUnknown | finalizeFailed | finalizeSucceeded | eventFailed
    | eventSucceeded | captureUnknown | captureFailed | captureSucceeded | voidUnknown | voidFailed
    | voidSucceeded | refundUnknown | refundFailed => cases hauth
    | refundSucceeded =>
      simp only [PaymentView.postRefund, PaymentView.putRefund] at hauth
      split_ifs at hauth

/-- In every reachable state and for every operation, amount and definitive outcome: an event
brings what the provider's own answer would have brought exactly when the operation is a charge
that neither or both of the two capture keys record, or that failed, or a capture that fails
again. -/
theorem resolve_agrees_iff {env : Env} {s : State} (hs : s.Reachable env) {p : PaymentId}
    {op : ExternalOperation} (hlinked : op.Linked s.db p) {accounts : LedgerAccounts}
    (haccounts : accounts.Known s.db) {unresolved : Db} {id : OperationId} {event : EventId}
    (hunanswered : Unanswered s.db p accounts op unresolved id event) {outcome : ProviderOutcome}
    (hdefinitive : outcome ≠ .unknown) {status : PaymentStatus} {now : Db}
    (hnow : op.run s.db p accounts outcome = .ok (status, now)) (reference : Option String) :
    ∃ later, ProviderEventResolver.resolve unresolved event id outcome.value reference accounts =
        .ok (.resolved, later) ∧
      (aftermath later p = aftermath now p ↔ op.Agrees s.db p outcome) := by
  have h := hs.invariant.sound
  cases op with
  | charge requestId reservationId amount currency answered =>
    exact charge_agrees_iff h hs.budgetsAgree haccounts hlinked hunanswered hdefinitive hnow
      reference
  | capture amount currency =>
    exact capture_agrees_iff h hdefinitive (fun v hv hauth => hs.uncaptured hv hauth) hunanswered
      hnow reference
  | void amount currency =>
    obtain ⟨later, hresolve, hne⟩ := void_disagrees h hdefinitive hunanswered hnow reference
    exact ⟨later, hresolve, iff_of_false hne not_false⟩
  | refund amount currency =>
    obtain ⟨later, hresolve, hne⟩ := refund_disagrees h hdefinitive hunanswered hnow reference
    exact ⟨later, hresolve, iff_of_false hne not_false⟩

/-- A body that returns is what is committed. -/
lemma Db.commit_of_ok {α : Type} (db : Db) {body : Except Error (α × Db)} {a : α}
    (h : body.map (·.1) = .ok a) : body = .ok (a, db.commit (body.map (·.2))) := by
  cases body with
  | error e => cases h
  | ok r =>
    obtain rfl := Except.ok.inj h
    rfl

lemma ProviderEventRepository.record_rest (db : Db) (providerName eventId eventType : String)
    (signatureValid : Bool) :
    (record db providerName eventId eventType signatureValid).2 =
      { db with providerEvents :=
        (record db providerName eventId eventType signatureValid).2.providerEvents } := by
  simp only [record]
  split <;> rfl

/-- The answer UNKNOWN is taken, and a signed event is recorded. -/
def ExternalOperation.unanswered (op : ExternalOperation) (db : Db) (p : PaymentId) : Db :=
  (ProviderEventRepository.record (db.commit ((op.run db p ⟨0, 1⟩ .unknown).map (·.2)))
    "mock" "event" "payment.succeeded" true).2

lemma ExternalOperation.unanswered_unanswered {op : ExternalOperation} {db : Db} {p : PaymentId}
    (hunknown : (op.run db p ⟨0, 1⟩ .unknown).map (·.1) = .ok .unknownExternalOutcome)
    (hop : (op.unanswered db p).providerOperations.idOf? (op.key p) = some 0)
    (hevent : ((op.unanswered db p).providerEvents.get? 0).any
      (fun row => row.signatureValid && decide (row.processingStatus ≠ .processed)) = true) :
    Unanswered db p ⟨0, 1⟩ op (op.unanswered db p) 0 0 := by
  refine ⟨⟨_, _, Db.commit_of_ok db hunknown, ProviderEventRepository.record_rest _ _ _ _ _⟩, hop,
    ?_⟩
  cases hrow : (op.unanswered db p).providerEvents.get? 0 with
  | none => simp [hrow] at hevent
  | some row => exact ⟨row, rfl, by simpa [hrow] using hevent⟩

/-- The state in which a worker has taken up a payment. -/
def State.charging : State :=
  Machine.run (State.step .bare) (.start (.seeded .processing (some .reserved))) [.mark 0 ⟨0, 1⟩]

/-- A charge leaves the same, whether it succeeds now or later. -/
theorem resolve_agrees_charge :
    let op : ExternalOperation := .charge 0 0 ⟨25, 0⟩ "USD" none
    let now := State.charging.db.commit
      ((op.run State.charging.db 0 ⟨0, 1⟩ .succeeded).map (·.2))
    ∃ later, ProviderEventResolver.resolve (op.unanswered State.charging.db 0) 0 0 "SUCCEEDED"
        none ⟨0, 1⟩ = .ok (.resolved, later) ∧ aftermath later 0 = aftermath now 0 := by
  intro op now
  have hs : State.charging.Reachable .bare :=
    ⟨_, _, Db.seeded_blank _ _, Db.seeded_budgetsAgree _ _, rfl⟩
  have hlinked : op.Linked State.charging.db 0 := by
    have hp : (State.charging.db.payments.get? 0).map (·.paymentRequestId) = some 0 := by
      decide +kernel
    have hr : (State.charging.db.paymentRequests.get? 0).map (·.budgetReservationId) =
      some (some 0) := by decide +kernel
    obtain ⟨payment, hp, hrequest⟩ := Option.map_eq_some_iff.mp hp
    obtain ⟨request, hr, hlink⟩ := Option.map_eq_some_iff.mp hr
    exact ⟨payment, request, hp, by rwa [hrequest], hlink⟩
  have hnow : op.run State.charging.db 0 ⟨0, 1⟩ .succeeded = .ok (.succeeded, now) :=
    Db.commit_of_ok _ (by decide +kernel)
  have hunanswered : Unanswered State.charging.db 0 ⟨0, 1⟩ op (op.unanswered State.charging.db 0)
      0 0 := ExternalOperation.unanswered_unanswered (by decide +kernel) (by decide +kernel)
        (by decide +kernel)
  obtain ⟨later, hresolve, hagrees⟩ := resolve_agrees_iff hs hlinked (by decide +kernel)
    hunanswered (by decide) hnow none
  exact ⟨later, hresolve, hagrees.mpr fun _ => by decide +kernel⟩

/-- A void that the provider confirms leaves VOIDED; confirmed later, it leaves SUCCEEDED. -/
theorem resolve_unvoids :
    let db := Db.seeded .authorized none
    let op : ExternalOperation := .void ⟨25, 0⟩ "USD"
    (State.start db).Reachable .bare ∧
      Unanswered db 0 ⟨0, 1⟩ op (op.unanswered db 0) 0 0 ∧
      ((op.run db 0 ⟨0, 1⟩ .succeeded).map fun x => (x.2.payments.get? 0).map (·.status)) =
        .ok (some .voided) ∧
      ((ProviderEventResolver.resolve (op.unanswered db 0) 0 0 "SUCCEEDED" none ⟨0, 1⟩).map
        fun x => (x.2.payments.get? 0).map (·.status)) = .ok (some .succeeded) := by
  intro db op
  have hunanswered : Unanswered db 0 ⟨0, 1⟩ op (op.unanswered db 0) 0 0 :=
    ExternalOperation.unanswered_unanswered (by decide +kernel) (by decide +kernel)
      (by decide +kernel)
  exact ⟨⟨db, [], Db.seeded_blank _ _, Db.seeded_budgetsAgree _ _, rfl⟩, hunanswered,
    by decide +kernel, by decide +kernel⟩

end AgentPay
