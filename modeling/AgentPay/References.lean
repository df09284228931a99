import AgentPay.Acceptance
import AgentPay.Decisions
import AgentPay.Ingestion
import AgentPay.Text

/-!
# The references that settlement reports name

A report is reconciled through the reference on a provider operation. The worker and the webhook
resolver write status and reference of a charge together with the payment's status; `capture`
writes neither.
-/

namespace AgentPay

open Support

/-! ### What the books leave alone -/

/-- The rows of the provider's operations and events. -/
def Db.external (db : Db) :
    Table ProviderOperation ProviderOperation.key × Table ProviderEvent ProviderEvent.key :=
  (db.providerOperations, db.providerEvents)

lemma postJournal_external {db db' : Db} {currency : String} {reference : JournalReference}
    {key : JournalKey} {postings : List PostingInput} {id : ℕ}
    (hrun : postJournal db currency reference key postings = .ok (id, db')) :
    db'.external = db.external := by
  simp only [postJournal] at hrun
  split_ifs at hrun
  split at hrun
  · obtain ⟨-, rfl⟩ := Prod.mk.inj (Except.ok.inj hrun)
    rfl
  · obtain ⟨stored, -, hrun⟩ := Except.bind_eq_ok.mp hrun
    split at hrun
    · cases hrun
    · obtain ⟨-, rfl⟩ := Prod.mk.inj (Except.ok.inj hrun)
      rfl

lemma BudgetRepository.settle_external {db db' : Db} {id : ReservationId}
    {status : ReservationStatus} {f : Budget → Amount → Except Error Budget}
    (hrun : settle db id status f = .ok db') : db'.external = db.external := by
  obtain ⟨row, budgets, -, rfl⟩ := settle_eq_ok hrun
  rfl

lemma PaymentOrchestrator.upsertCapture_external {db db' : Db} {p : PaymentId} {amount : Decimal}
    {currency : String} {id : TransactionId}
    (hrun : upsertCapture db p amount currency = .ok (id, db')) : db'.external = db.external := by
  simp only [upsertCapture] at hrun
  obtain ⟨stored, -, hrun⟩ := Except.bind_eq_ok.mp hrun
  split at hrun
  · obtain ⟨-, rfl⟩ := Prod.mk.inj (Except.ok.inj hrun)
    rfl
  · split at hrun
    · cases hrun
    · obtain ⟨-, rfl⟩ := Prod.mk.inj (Except.ok.inj hrun)
      rfl

lemma PaymentLifecycle.createTransaction_external {db db' : Db} {p : PaymentId}
    {type : TransactionType} {amount : Decimal} {currency : String} {key : TransactionKey}
    {status : TransactionStatus} {id : TransactionId}
    (hrun : createTransaction db p type amount currency key status = .ok (id, db')) :
    db'.external = db.external := by
  rcases createTransaction_eq_ok hrun with
    ⟨-, -, -, rfl⟩ | ⟨-, -, -, -, transactions, -, rfl⟩ <;> rfl

lemma ProviderEventResolver.createTransaction_external {db db' : Db} {p : PaymentId}
    {amount : Decimal} {currency : String} {reference : Option String} {id : TransactionId}
    (hrun : createTransaction db p amount currency reference = .ok (id, db')) :
    db'.external = db.external := by
  rcases createTransaction_eq_ok hrun with
    ⟨-, -, -, rfl⟩ | ⟨-, -, -, -, transactions, -, rfl⟩ <;> rfl

lemma ProviderEventResolver.settleCharge_external {db db' : Db} {p : PaymentId}
    {reservationId : Option ReservationId} {amount : Decimal} {currency : String}
    {accounts : LedgerAccounts} {reference : Option String}
    (hrun : settleCharge db p reservationId amount currency accounts reference = .ok db') :
    db'.external = db.external := by
  simp only [settleCharge] at hrun
  split at hrun
  · cases hrun
  obtain ⟨db₁, hconsume, hrun⟩ := Except.bind_eq_ok.mp hrun
  obtain ⟨⟨t, db₂⟩, hcreate, hrun⟩ := Except.bind_eq_ok.mp hrun
  obtain ⟨⟨j, db₃⟩, hpost, hrun⟩ := Except.bind_eq_ok.mp hrun
  obtain rfl := Except.ok.inj hrun
  calc (postTransaction db₃ t).external
      = db₃.external := rfl
    _ = db₂.external := postJournal_external hpost
    _ = db₁.external := createTransaction_external hcreate
    _ = db.external := BudgetRepository.settle_external hconsume

/-- What `resolve` writes of the provider's rows: the event is marked, and the operation decided
unless the payment is. -/
lemma ProviderEventResolver.resolve_external {db db' : Db} {event : EventId} {id : OperationId}
    {outcome : String} {reference : Option String} {accounts : LedgerAccounts}
    {resolution : Resolution}
    (hrun : resolve db event id outcome reference accounts = .ok (resolution, db')) :
    db' = db ∨ db' = markProcessed db event ∨
      ∃ o payment request status, operationRow db id = some (o, payment, request) ∧
        payment.status.Resolvable ∧ (outcome = "SUCCEEDED" ∧ status = .succeeded ∨
          outcome = "FAILED" ∧ status = .failed) ∧
        db'.external = (markProcessed (decideOperation db id status reference) event).external := by
  obtain ⟨row, -, -, ⟨-, -, rfl⟩ | ⟨-, o, payment, request, hop, hcase⟩⟩ := resolve_eq_ok hrun
  · exact .inl rfl
  rcases hcase with ⟨-, -, rfl⟩ | ⟨hresolvable, -, db₁, rfl, ⟨hout, hdone⟩ | ⟨hout, hdone⟩⟩
  · exact .inr (.inl rfl)
  · refine .inr (.inr ⟨o, payment, request, .succeeded, hop, hresolvable, .inl ⟨hout, rfl⟩, ?_⟩)
    suffices h : db₁.external = (decideOperation db id .succeeded reference).external by
      simp only [Db.external, Prod.mk.injEq] at h
      simp only [Db.external, markProcessed, h]
    simp only [resolveSucceeded] at hdone
    split_ifs at hdone
    · obtain ⟨db₂, hsettle, hdone⟩ := Except.bind_eq_ok.mp hdone
      obtain rfl := Except.ok.inj hdone
      have hexternal := settleCharge_external hsettle
      exact hexternal
    · obtain rfl := Except.ok.inj hdone
      rfl
  · refine .inr (.inr ⟨o, payment, request, .failed, hop, hresolvable, .inr ⟨hout, rfl⟩, ?_⟩)
    suffices h : db₁.external = (decideOperation db id .failed reference).external by
      simp only [Db.external, Prod.mk.injEq] at h
      simp only [Db.external, markProcessed, h]
    simp only [resolveFailed] at hdone
    split at hdone
    · obtain ⟨db₂, hrelease, hdone⟩ := Except.bind_eq_ok.mp hdone
      obtain rfl := Except.ok.inj hdone
      have hexternal := BudgetRepository.settle_external hrelease
      exact hexternal
    · obtain rfl := Except.ok.inj hdone
      rfl

/-- What `finalize` writes of a charge. -/
def PaymentOrchestrator.charged (outcome : ProviderOutcome) (reference : Option String) :
    ProviderOperation → ProviderOperation :=
  match outcome with
  | .unknown   => fun o => { o with status := .unknown }
  | .failed    => decided .failed reference
  | .succeeded => decided .succeeded reference

lemma PaymentOrchestrator.charged_key (outcome : ProviderOutcome) (reference : Option String)
    (o : ProviderOperation) : (charged outcome reference o).key = o.key := by
  cases outcome <;> rfl

lemma PaymentOrchestrator.finalize_external {db db' : Db} (h : db.Sound) {p : PaymentId}
    {requestId : RequestId} {reservationId : ReservationId} {amount : Decimal} {currency : String}
    {accounts : LedgerAccounts} {outcome : ProviderOutcome} {reference : Option String}
    {status : PaymentStatus}
    (hrun : finalize db p requestId reservationId amount currency accounts outcome reference =
      .ok (status, db')) :
    db' = db ∨ ∃ v, view db p = some v ∧ v.status.Executable ∧
      db'.external =
        (updateCharges db p (charged outcome reference) (charged_key _ _)).external := by
  obtain ⟨v, hv, -, hsame | ⟨hexec, hdone⟩⟩ := finalize_eq_ok h hrun
  · exact .inl hsame
  refine .inr ⟨v, hv, hexec, ?_⟩
  cases outcome with
  | unknown =>
    have hdb : db' = finalizeUnknown db p reservationId reference := hdone
    rw [hdb]
    rfl
  | failed =>
    obtain ⟨db₁, hrelease, hdone⟩ := Except.bind_eq_ok.mp hdone
    obtain rfl := Except.ok.inj hdone
    have hexternal := BudgetRepository.settle_external hrelease
    exact hexternal
  | succeeded =>
    obtain ⟨db₁, hconsume, hdone⟩ := Except.bind_eq_ok.mp hdone
    obtain ⟨⟨t, db₂⟩, hupsert, hdone⟩ := Except.bind_eq_ok.mp hdone
    obtain ⟨⟨j, db₃⟩, hpost, hdone⟩ := Except.bind_eq_ok.mp hdone
    obtain rfl := Except.ok.inj hdone
    exact ((postJournal_external hpost).trans (upsertCapture_external hupsert)).trans
      (BudgetRepository.settle_external hconsume)

/-! ### Operations that are opened -/

/-- The operations are as they were, or there is one more, without a reference or an outcome. -/
def Db.OpensOperation (db db' : Db) : Prop :=
  db'.providerOperations.rows = db.providerOperations.rows ∨
    ∃ p type key, db'.providerOperations.rows =
      db.providerOperations.rows ++ [PaymentRepository.newOperation p type key]

lemma Db.OpensOperation.refl (db : Db) : db.OpensOperation db := .inl rfl

lemma Db.OpensOperation.of_external {db db' : Db} (h : db'.external = db.external) :
    db.OpensOperation db' := .inl (congrArg (fun x => x.1.rows) h)

lemma Db.OpensOperation.then_external {db db' db'' : Db} (h : db.OpensOperation db')
    (hexternal : db''.external = db'.external) : db.OpensOperation db'' := by
  have hrows : db''.providerOperations.rows = db'.providerOperations.rows :=
    congrArg (fun x => x.1.rows) hexternal
  rcases h with h | ⟨p, type, key, h⟩
  · exact .inl (hrows.trans h)
  · exact .inr ⟨p, type, key, hrows.trans h⟩

lemma PaymentRepository.createProviderOperation_opens {db db' : Db} {p : PaymentId}
    {type : OperationType} {key : OperationKey} {id : OperationId}
    (hrun : createProviderOperation db p type key = .ok (id, db')) : db.OpensOperation db' := by
  rcases createProviderOperation_eq_ok hrun with ⟨operations, -, hrows, rfl⟩ | ⟨-, rfl⟩
  · exact .inr ⟨p, type, key, hrows⟩
  · exact .inl rfl

lemma Worker.mark_opens {db db' : Db} {p : PaymentId} {accounts : LedgerAccounts} {c : Claim}
    (hrun : mark db p accounts = .ok (c, db')) : db.OpensOperation db' := by
  simp only [mark] at hrun
  split at hrun
  · cases hrun
  split at hrun
  · cases hrun
  split at hrun
  · cases hrun
  obtain ⟨⟨operationId, db₁⟩, hop, hrun⟩ := Except.bind_eq_ok.mp hrun
  obtain ⟨-, rfl⟩ := Prod.mk.inj (Except.ok.inj hrun)
  exact (PaymentRepository.createProviderOperation_opens hop).then_external rfl

namespace PaymentLifecycle

lemma captureAnswered_external {db db' : Db} {p : PaymentId} {amount : Decimal} {currency : String}
    {accounts : LedgerAccounts} {outcome : ProviderOutcome} {status : PaymentStatus}
    (hrun : captureAnswered db p amount currency accounts outcome = .ok (status, db')) :
    db'.external = db.external := by
  cases outcome with
  | unknown =>
    obtain ⟨-, rfl⟩ := Prod.mk.inj (Except.ok.inj hrun)
    rfl
  | failed =>
    obtain ⟨⟨t, db₁⟩, hcreate, hrun⟩ := Except.bind_eq_ok.mp hrun
    obtain ⟨-, rfl⟩ := Prod.mk.inj (Except.ok.inj hrun)
    have hexternal := createTransaction_external hcreate
    exact hexternal
  | succeeded =>
    obtain ⟨⟨t, db₁⟩, hcreate, hrun⟩ := Except.bind_eq_ok.mp hrun
    obtain ⟨⟨j, db₂⟩, hpost, hrun⟩ := Except.bind_eq_ok.mp hrun
    obtain ⟨-, rfl⟩ := Prod.mk.inj (Except.ok.inj hrun)
    exact (postJournal_external hpost).trans (createTransaction_external hcreate)

lemma voidAnswered_external {db db' : Db} {p : PaymentId} {amount : Decimal} {currency : String}
    {outcome : ProviderOutcome} {status : PaymentStatus}
    (hrun : voidAnswered db p amount currency outcome = .ok (status, db')) :
    db'.external = db.external := by
  cases outcome with
  | unknown =>
    obtain ⟨-, rfl⟩ := Prod.mk.inj (Except.ok.inj hrun)
    rfl
  | failed | succeeded =>
    obtain ⟨⟨t, db₁⟩, hcreate, hrun⟩ := Except.bind_eq_ok.mp hrun
    obtain ⟨-, rfl⟩ := Prod.mk.inj (Except.ok.inj hrun)
    have hexternal := createTransaction_external hcreate
    exact hexternal

lemma refundAnswered_external {db db' : Db} {p : PaymentId} {refundId : TransactionId}
    {amount : Decimal} {currency rawCurrency : String} {accounts : LedgerAccounts}
    {captured refunded : ℕ} {outcome : ProviderOutcome} {status : PaymentStatus}
    (hrun : refundAnswered db p refundId amount currency rawCurrency accounts captured refunded
      outcome = .ok (status, db')) : db'.external = db.external := by
  cases outcome with
  | unknown | failed =>
    obtain ⟨-, rfl⟩ := Prod.mk.inj (Except.ok.inj hrun)
    rfl
  | succeeded =>
    obtain ⟨⟨j, db₁⟩, hpost, hrun⟩ := Except.bind_eq_ok.mp hrun
    obtain ⟨-, rfl⟩ := Prod.mk.inj (Except.ok.inj hrun)
    have hexternal := postJournal_external hpost
    exact hexternal

/-- `capture`, `void` and `refund` open an operation and leave it as it is. -/
lemma capture_opens {db db' : Db} {p : PaymentId} {amount : Decimal} {currency : String}
    {accounts : LedgerAccounts} {outcome : ProviderOutcome} {status : PaymentStatus}
    (hrun : capture db p amount currency accounts >>= Progress.answer outcome =
      .ok (status, db')) : db.OpensOperation db' := by
  obtain ⟨progress, hcapture, hanswer⟩ := Except.bind_eq_ok.mp hrun
  rcases capture_eq_ok hcapture with rfl | ⟨payment, id, db₁, minor, -, -, -, hop, -, rfl⟩
  · obtain ⟨-, rfl⟩ := Prod.mk.inj (Except.ok.inj hanswer)
    exact .refl _
  · exact (PaymentRepository.createProviderOperation_opens hop).then_external
      (captureAnswered_external hanswer)

lemma void_opens {db db' : Db} {p : PaymentId} {amount : Decimal} {currency : String}
    {outcome : ProviderOutcome} {status : PaymentStatus}
    (hrun : void db p amount currency >>= Progress.answer outcome = .ok (status, db')) :
    db.OpensOperation db' := by
  obtain ⟨progress, hvoid, hanswer⟩ := Except.bind_eq_ok.mp hrun
  rcases void_eq_ok hvoid with rfl | ⟨payment, id, db₁, minor, -, -, -, hop, -, rfl⟩
  · obtain ⟨-, rfl⟩ := Prod.mk.inj (Except.ok.inj hanswer)
    exact .refl _
  · have hopens := PaymentRepository.createProviderOperation_opens hop
    have hfrom : db.OpensOperation db₁ := hopens
    exact hfrom.then_external (voidAnswered_external hanswer)

lemma refund_opens {db db' : Db} {p : PaymentId} {amount : Decimal} {currency : String}
    {accounts : LedgerAccounts} {outcome : ProviderOutcome} {status : PaymentStatus}
    (hrun : refund db p amount currency accounts >>= Progress.answer outcome =
      .ok (status, db')) : db.OpensOperation db' := by
  obtain ⟨progress, hrefund, hanswer⟩ := Except.bind_eq_ok.mp hrun
  rcases refund_eq_ok hrefund with ⟨status', rfl, -⟩ |
    ⟨payment, id, db₁, refundId, db₂, minor, -, -, -, -, -, -, hop, hcreate, -, rfl⟩
  · obtain ⟨-, rfl⟩ := Prod.mk.inj (Except.ok.inj hanswer)
    exact .refl _
  · have hopens := PaymentRepository.createProviderOperation_opens hop
    have hfrom : db.OpensOperation db₁ := hopens
    exact hfrom.then_external
      ((refundAnswered_external hanswer).trans (createTransaction_external hcreate))

end PaymentLifecycle

/-! ### Charges that can be traced -/

/-- Statuses of a payment whose charge was settled. -/
def PaymentStatus.Settled (status : PaymentStatus) : Prop :=
  status = .succeeded ∨ status = .refundFailed ∨ status = .refunded

instance : DecidablePred PaymentStatus.Settled :=
  fun _ => inferInstanceAs (Decidable (_ ∨ _ ∨ _))

/-- An answer with no other reference than the provider's own, and not without it where it is a
success. -/
structure ProviderAnswer.Exposes (answer : ProviderAnswer) (own : String) : Prop where
  exposed : ∀ reference ∈ answer.reference, reference = own
  named : answer.outcome = .succeeded → answer.reference.isSome

section Exposed

-- `own` is the reference the provider has for the charge of each payment.
variable (own : PaymentId → String)

/-- The stored references are the provider's, and every operation that succeeded has one; a payment
is settled only with a charge that succeeded. -/
structure Db.Traceable (db : Db) : Prop where
  exposed : ∀ o ∈ db.providerOperations.rows, ∀ reference ∈ o.providerReference,
    reference = own o.paymentId
  named : ∀ o ∈ db.providerOperations.rows, o.status = .succeeded → o.providerReference.isSome
  charged : ∀ p v, view db p = some v → v.status.Settled →
    ∃ o, db.providerOperations.row? (.charge p) = some o ∧ o.status = .succeeded

structure State.Traceable (s : State) : Prop where
  db : s.db.Traceable own
  answers : ∀ c answer, Phase.answered c answer ∈ s.workers → answer.Exposes (own c.paymentId)

/-- The provider answers charges with its references, and no authorized payment is captured. -/
def Action.Exposes (s : State) : Action → Prop
  | .charge w answer => ∀ c, s.workers[w]? = some (.calling c) → answer.Exposes (own c.paymentId)
  | .capture p _ _ _ .succeeded => ∀ payment, s.db.payments.get? p = some payment →
      payment.status ≠ .authorized
  | _ => True

end Exposed

/-- What settles a payment. -/
lemma PaymentStep.settled {op : PaymentOp} {v v' : PaymentView} (h : PaymentStep op v v')
    (hv' : v'.status.Settled) : v.status.Settled ∨
      op = .finalize .succeeded ∧ v.charge.isSome ∨ op = .event .succeeded ∧ v.charge.isSome ∨
        op = .capture .succeeded ∧ v.status = .authorized := by
  cases h with
  | finalizeSucceeded _ hcharge => exact .inr (.inl ⟨rfl, hcharge⟩)
  | eventSucceeded _ hcharge => exact .inr (.inr (.inl ⟨rfl, hcharge⟩))
  | captureSucceeded h => exact .inr (.inr (.inr ⟨rfl, h⟩))
  | refundUnknown h | refundFailed h | refundSucceeded h => exact .inl h.status
  | _ =>
    revert hv'
    simp [PaymentStatus.Settled, PaymentView.mark, PaymentView.withStatus, PaymentView.fail]

lemma PaymentView.Created.not_settled {v : PaymentView} (h : v.Created) : ¬ v.status.Settled := by
  rcases h.state with ⟨h, -⟩ | ⟨h, -⟩ | ⟨h, -⟩ <;> rw [h] <;> decide

section Exposed

variable {own : PaymentId → String}

/-- A step that opens operations at most, and settles no payment. -/
lemma Db.Traceable.opens {db db' : Db} (h : db.Traceable own) (hopens : db.OpensOperation db')
    (hviews : ∀ p v', view db' p = some v' → v'.status.Settled →
      ∃ v, view db p = some v ∧ v.status.Settled) : db'.Traceable own := by
  have hmem : ∀ o ∈ db'.providerOperations.rows, o ∈ db.providerOperations.rows ∨
      o.providerReference = none ∧ o.status = .pending := by
    intro o ho
    rcases hopens with hsame | ⟨p, type, key, hrows⟩
    · exact .inl (hsame ▸ ho)
    · rw [hrows, List.mem_append, List.mem_singleton] at ho
      rcases ho with ho | rfl
      · exact .inl ho
      · exact .inr ⟨rfl, rfl⟩
  refine ⟨fun o ho reference href => ?_, fun o ho hstatus => ?_, fun p v' hv' hsettled => ?_⟩
  · rcases hmem o ho with hold | ⟨hnone, -⟩
    · exact h.exposed o hold reference href
    · rw [hnone] at href
      cases href
  · rcases hmem o ho with hold | ⟨-, hpending⟩
    · exact h.named o hold hstatus
    · rw [hpending] at hstatus
      cases hstatus
  · obtain ⟨v, hv, hv'⟩ := hviews p v' hv' hsettled
    obtain ⟨o, ho, hstatus⟩ := h.charged p v hv hv'
    obtain ⟨hmem, hkey⟩ := Table.row?_eq_some.mp ho
    refine ⟨o, Table.row?_eq_some.mpr ⟨?_, hkey⟩, hstatus⟩
    rcases hopens with hsame | ⟨p, type, key, hrows⟩
    · exact hsame ▸ hmem
    · exact hrows ▸ List.mem_append_left _ hmem

lemma Moves.settled {op : PaymentOp} {p : PaymentId} {db db' : Db} (h : Moves op p db db')
    {q : PaymentId} {v' : PaymentView} (hv' : view db' q = some v') :
    view db q = some v' ∨ q = p ∧ ∃ v, view db p = some v ∧ PaymentStep op v v' := by
  obtain ⟨f, heffect, hstep⟩ := h
  by_cases hq : q = p
  · subst hq
    rw [heffect.here, Option.map_eq_some_iff] at hv'
    obtain ⟨v, hv, rfl⟩ := hv'
    rcases hstep v hv with hsame | hstep
    · exact .inl (by rw [hsame, hv])
    · exact .inr ⟨rfl, v, hv, hstep⟩
  · exact .inl (by rw [← heffect.others q hq, hv'])

/-- A step that rewrites the charge of one payment that is not settled. -/
lemma Db.Traceable.rewrites {db db' : Db} (h : db.Traceable own) {op : PaymentOp} {p : PaymentId}
    (hmoves : Moves op p db db') {f : ProviderOperation → ProviderOperation}
    (hundecided : ∀ v, view db p = some v → ¬ v.status.Settled)
    (hrows : ∀ o' ∈ db'.providerOperations.rows, o' ∈ db.providerOperations.rows ∨
      ∃ o ∈ db.providerOperations.rows, o.paymentId = p ∧ o' = f o)
    (hpayment : ∀ o, (f o).paymentId = o.paymentId)
    (hexposed : ∀ o, ∀ reference ∈ (f o).providerReference, reference ∈ o.providerReference ∨
      reference = own p)
    (hnamed : ∀ o, (f o).status = .succeeded → (f o).providerReference.isSome)
    (hrow : ∀ q, db'.providerOperations.row? (.charge q) =
      if q = p then (db.providerOperations.row? (.charge p)).map f
      else db.providerOperations.row? (.charge q))
    (hop : op = .finalize .succeeded ∨ op = .event .succeeded → ∀ o, (f o).status = .succeeded)
    (hcapture : op ≠ .capture .succeeded) : db'.Traceable own := by
  refine ⟨fun o' ho' reference href => ?_, fun o' ho' hstatus => ?_, fun q v' hv' hsettled => ?_⟩
  · rcases hrows o' ho' with hold | ⟨o, ho, rfl, rfl⟩
    · exact h.exposed o' hold reference href
    · rw [hpayment]
      rcases hexposed o reference href with hold | hnew
      · exact h.exposed o ho reference hold
      · exact hnew
  · rcases hrows o' ho' with hold | ⟨o, ho, -, rfl⟩
    · exact h.named o' hold hstatus
    · exact hnamed o hstatus
  · rcases hmoves.settled hv' with hv | ⟨rfl, v, hv, hstep⟩
    · have hne : q ≠ p := fun hq => hundecided v' (hq ▸ hv) hsettled
      rw [hrow, if_neg hne]
      exact h.charged q v' hv hsettled
    · have hcharge : v.charge.isSome ∧ (op = .finalize .succeeded ∨ op = .event .succeeded) := by
        rcases hstep.settled hsettled with hbefore | ⟨rfl, hcharge⟩ | ⟨rfl, hcharge⟩ | ⟨hcap, -⟩
        · exact absurd hbefore (hundecided v hv)
        · exact ⟨hcharge, .inl rfl⟩
        · exact ⟨hcharge, .inr rfl⟩
        · exact absurd hcap hcapture
      rw [(view_tables hv).1, Option.isSome_map] at hcharge
      obtain ⟨o, ho⟩ := Option.isSome_iff_exists.mp hcharge.1
      exact ⟨f o, by rw [hrow, if_pos rfl, ho]; rfl, hop hcharge.2 o⟩

lemma PaymentStatus.Executable.not_settled {status : PaymentStatus} (h : status.Executable) :
    ¬ status.Settled := by
  cases status <;> first | decide | exact absurd h (by decide)

lemma PaymentStatus.Resolvable.not_settled {status : PaymentStatus} (h : status.Resolvable) :
    ¬ status.Settled := by
  cases status <;> first | decide | exact absurd h (by decide)

lemma PaymentOrchestrator.row?_updateCharges {db : Db} (h : db.Sound) (p : PaymentId)
    (f : ProviderOperation → ProviderOperation) (hf : ∀ o, (f o).key = o.key) (q : PaymentId) :
    (updateCharges db p f hf).providerOperations.row? (.charge q) =
      if q = p then (db.providerOperations.row? (.charge p)).map f
      else db.providerOperations.row? (.charge q) := by
  rw [updateCharges, Table.row?_updateWhere]
  have hcharge : ∀ q o, db.providerOperations.row? (.charge q) = some o →
      o.paymentId = q ∧ o.operationType = .charge := fun q o ho => by
    obtain ⟨hmem, hkey⟩ := Table.row?_eq_some.mp ho
    have hfiled := (h.operation o hmem).1
    have hk : o.idempotencyKey = .charge q := by simpa using hkey
    exact ⟨by rw [hfiled.payment, hk]; rfl, by rw [hfiled.type, hk]; rfl⟩
  split_ifs with hq
  · subst hq
    cases ho : db.providerOperations.row? (.charge q) with
    | none => rfl
    | some o => simp [hcharge q o ho]
  · cases ho : db.providerOperations.row? (.charge q) with
    | none => rfl
    | some o => simp [hcharge q o ho, hq]

lemma ProviderEventResolver.row?_decideOperation {db : Db} (h : db.Sound) {id : OperationId}
    {o : ProviderOperation} (ho : db.providerOperations.get? id = some o)
    (ht : o.operationType = .charge) (status : OperationStatus) (reference : Option String)
    (q : PaymentId) :
    (decideOperation db id status reference).providerOperations.row? (.charge q) =
      if q = o.paymentId then (db.providerOperations.row? (.charge o.paymentId)).map
        (PaymentOrchestrator.decided status reference)
      else db.providerOperations.row? (.charge q) := by
  have hkey := (h.operation o (Table.mem_of_get? ho)).1.key_eq_charge ht
  have hold : db.providerOperations.row? (.charge o.paymentId) = some o :=
    Table.row?_eq_some.mpr ⟨Table.mem_of_get? ho, congrArg some hkey⟩
  have hrow := Table.row?_update ho (congrArg some hkey)
    (PaymentOrchestrator.decided status reference) (fun _ => rfl) (.charge q)
  by_cases hq : q = o.paymentId
  · subst hq
    rw [decideOperation, hrow, if_pos rfl, if_pos rfl, hold]
    rfl
  · rw [decideOperation, hrow, if_neg (by simpa using hq), if_neg hq]

/-- The worker's last phase keeps the charges traceable. -/
lemma Worker.finalize_traceable {db db' : Db} (hs : db.Sound) (h : db.Traceable own) {c : Claim}
    (hc : c.Valid db) {answer : ProviderAnswer} (hanswer : answer.Exposes (own c.paymentId))
    {status : PaymentStatus} (hrun : finalize db c answer = .ok (status, db')) :
    db'.Traceable own := by
  have hmoves := finalize_moves hs hc hrun
  rcases PaymentOrchestrator.finalize_external hs hrun with rfl | ⟨v, hv, hexec, hexternal⟩
  · exact h
  have hoperations : db'.providerOperations = (PaymentOrchestrator.updateCharges db c.paymentId
      (PaymentOrchestrator.charged answer.outcome answer.reference)
      (PaymentOrchestrator.charged_key _ _)).providerOperations := congrArg Prod.fst hexternal
  refine h.rewrites hmoves (f := PaymentOrchestrator.charged answer.outcome answer.reference)
    (fun v' hv' => ?_) (fun o' ho' => ?_) (fun o => ?_) (fun o reference href => ?_)
    (fun o hsucceeded => ?_) (fun q => ?_) (fun hop o => ?_) (by simp)
  · cases hv.symm.trans hv'
    exact hexec.not_settled
  · rw [hoperations, PaymentOrchestrator.updateCharges, Table.rows_updateWhere, List.mem_map] at ho'
    obtain ⟨o, ho, rfl⟩ := ho'
    split_ifs with hcharge
    · simp only [Bool.and_eq_true, decide_eq_true_eq] at hcharge
      exact .inr ⟨o, ho, hcharge.1, rfl⟩
    · exact .inl ho
  · cases answer.outcome <;> rfl
  · cases hout : answer.outcome with
    | unknown =>
      rw [hout] at href
      exact .inl href
    | failed | succeeded =>
      rw [hout] at href
      simp only [PaymentOrchestrator.charged, PaymentOrchestrator.decided] at href
      cases hreference : answer.reference with
      | none =>
        rw [hreference] at href
        exact .inl href
      | some r =>
        rw [hreference] at href
        cases href
        exact .inr (hanswer.exposed _ hreference)
  · cases hout : answer.outcome with
    | unknown | failed =>
      rw [hout] at hsucceeded
      cases hsucceeded
    | succeeded =>
      obtain ⟨r, hr⟩ := Option.isSome_iff_exists.mp (hanswer.named hout)
      simp [PaymentOrchestrator.charged, PaymentOrchestrator.decided, hr]
  · rw [hoperations]
    exact PaymentOrchestrator.row?_updateCharges hs _ _ _ q
  · have hout : answer.outcome = .succeeded := by simpa using hop
    rw [hout]
    rfl

/-- A delivered event keeps the charges traceable: it names a reference that is stored. -/
lemma applyEvent_traceable {db db' : Db} (hs : db.Sound) (h : db.Traceable own)
    {providerName eventId eventType : String} {providerReference : Option String}
    {status : WebhookStatus}
    (hrun : applyEvent db providerName eventId eventType providerReference = .ok (status, db')) :
    db'.Traceable own := by
  have hevents : ∀ providerEvents, ({ db with providerEvents } : Db).Traceable own := fun events =>
    h.opens (.inl rfl) fun p v' hv' hsettled => ⟨v', hv', hsettled⟩
  rcases applyEvent_eq_ok hrun with ⟨events, rfl⟩ |
    ⟨events, event, outcome, reference, id, o, accounts, resolution, -, -, -, hfind, -, events',
      hresolve⟩
  · exact hevents events
  obtain ⟨ho, href⟩ := findOperation_eq_some hfind
  have hcharge := hs.findOperation_charge hfind
  have hs' := hs.providerEvents events'
  rcases ProviderEventResolver.resolve_external hresolve with rfl | rfl |
    ⟨o', payment, request, written, hop, hresolvable, hwritten, hexternal⟩
  · exact hevents events'
  · exact hevents _
  obtain ⟨ho', hv⟩ := ProviderEventResolver.view_of_operationRow hop
  obtain rfl : o = o' := Option.some.inj (ho.symm.trans ho')
  have hoperations : db'.providerOperations =
      db.providerOperations.update id (PaymentOrchestrator.decided written (some reference))
        fun _ => rfl := congrArg Prod.fst hexternal
  have hmoves : ∃ out : ProviderOutcome, Moves (.event out) o.paymentId
      { db with providerEvents := events' } db' ∧ (out = .succeeded → written = .succeeded) := by
    rcases ProviderEventResolver.resolve_moves hs' ho hcharge hresolve with
      ⟨events'', rfl⟩ | ⟨hout, hmoves⟩ | ⟨hout, hmoves⟩
    · have hunseen : Moves (.event .failed) o.paymentId { db with providerEvents := events' }
          { db with providerEvents := events'' } :=
        ⟨fun v => v, ⟨by simp, fun _ _ => rfl, hs.providerEvents events''⟩, fun _ _ => .inl rfl⟩
      exact ⟨.failed, hunseen, by simp⟩
    · refine ⟨.succeeded, hmoves, fun _ => ?_⟩
      rcases hwritten with ⟨-, hwritten⟩ | ⟨hfailed, -⟩
      · exact hwritten
      · rw [hfailed] at hout
        exact absurd hout (by decide)
    · exact ⟨.failed, hmoves, by simp⟩
  obtain ⟨out, hmoves, hsucceeded⟩ := hmoves
  refine (hevents events').rewrites hmoves
    (f := PaymentOrchestrator.decided written (some reference))
    (fun v' hv' => ?_) (fun o' ho' => ?_) (fun _ => rfl) (fun o₁ r hr => ?_) (fun _ _ => rfl)
    (fun q => ?_) (fun hop o => ?_) (by simp)
  · cases hv.symm.trans hv'
    exact hresolvable.not_settled
  · rw [hoperations] at ho'
    rcases mem_modify ho' with hold | ⟨o₀, ho₀, rfl⟩
    · exact .inl hold
    · obtain rfl : o₀ = o := Option.some.inj (ho₀.symm.trans ho)
      exact .inr ⟨o₀, Table.mem_of_get? ho, rfl, rfl⟩
  · cases hr
    exact .inr (h.exposed o (Table.mem_of_get? ho) _ href)
  · rw [hoperations]
    exact ProviderEventResolver.row?_decideOperation hs ho hcharge written (some reference) q
  · have hout : out = .succeeded := by simpa using hop
    exact hsucceeded hout

/-! ### Every run keeps the charges traceable -/

/-- Only an execution writes the provider's rows. -/
lemma State.Writes.external {env : Env} {s : State} {a : Action} {db : Db}
    (h : State.Writes env s a db) (hquiet : a.executes = false) (hlate : ∀ w, a ≠ .finalize w) :
    db.external = s.db.external := by
  cases h with
  | nothing | configures | replays => rfl
  | executes ha => rw [ha] at hquiet; cases hquiet
  | finalizes => exact absurd rfl (hlate _)
  | accepts hcreation hopens hdecides =>
    obtain ⟨v, -, hcommits, -⟩ := hopens.decided hdecides
    rw [hcommits.rest]
    rfl
  | approves hrun =>
    obtain ⟨p, status⟩ := ‹PaymentId × PaymentStatus›
    obtain ⟨actor, approval, request, payment, budgetId, budget, h⟩ := approvePayment_rows hrun
    rw [h.rest]
    rfl
  | denies hrun =>
    obtain ⟨p, status⟩ := ‹PaymentId × PaymentStatus›
    obtain ⟨actor, approval, request, payment, -, -, -, rfl⟩ := denyPayment_eq_ok hrun
    rfl

/-- A payment that a step settles was settled, or the step is a success. -/
lemma State.step_settled {env : Env} {s : State} (h : s.Invariant) (a : Action) {p : PaymentId}
    {v' : PaymentView} (hv' : view (s.step env a).db p = some v') (hsettled : v'.status.Settled)
    (hquiet : ∀ q op, a.target env s = some (q, op) → op ≠ .finalize .succeeded ∧
      op ≠ .event .succeeded ∧ (op = .capture .succeeded → ∀ payment,
        s.db.payments.get? q = some payment → payment.status ≠ .authorized)) :
    ∃ v, view s.db p = some v ∧ v.status.Settled := by
  rcases (step_follows h env a).view_eq_some hv' with hv | ⟨op, v, htarget, hv, hstep⟩ | ⟨-, hnew⟩
  · exact ⟨v', hv, hsettled⟩
  · obtain ⟨hfinalize, hevent, hcapture⟩ := hquiet p op htarget
    rcases hstep.settled hsettled with hbefore | ⟨rfl, -⟩ | ⟨rfl, -⟩ | ⟨rfl, hauth⟩
    · exact ⟨v, hv, hbefore⟩
    · exact absurd rfl hfinalize
    · exact absurd rfl hevent
    · obtain ⟨payment, request, hp, -, rfl⟩ := view_eq_some.mp hv
      exact absurd hauth (hcapture rfl payment hp)
  · exact absurd hsettled hnew.not_settled

/-- A durable answer carries the reference of the charge it is read from. -/
lemma Worker.durable_exposes {db : Db} (h : db.Traceable own) {p : PaymentId}
    {answer : ProviderAnswer} (hdurable : durable db p = some answer) :
    answer.Exposes (own p) := by
  simp only [durable, Option.bind_eq_bind, Option.bind_eq_some_iff, Option.pure_def,
    Option.some.injEq] at hdurable
  obtain ⟨id, hlast, o, ho, outcome, hout, rfl⟩ := hdurable
  have hmem := Table.mem_of_get? ho
  have hpayment : o.paymentId = p := by
    obtain ⟨⟨o', ho', hp⟩, -⟩ := lastIdx?_eq_some.mp hlast
    obtain rfl : o' = o := Option.some.inj (ho'.symm.trans ho)
    simp only [Bool.and_eq_true, decide_eq_true_eq] at hp
    exact hp.1
  refine ⟨fun reference href => hpayment ▸ h.exposed o hmem reference href, fun hsucceeded => ?_⟩
  refine h.named o hmem ?_
  cases hstatus : o.status <;> rw [hstatus] at hout <;> cases hout <;>
    first | rfl | cases hsucceeded

/-- The workers' answers after a step are old ones, or what the step brought. -/
lemma State.step_answers {env : Env} {s : State} (h : s.Traceable own) {a : Action}
    (ha : a.Exposes own s) {c : Worker.Claim} {answer : ProviderAnswer}
    (hanswer : Phase.answered c answer ∈ (s.step env a).workers) :
    answer.Exposes (own c.paymentId) := by
  have hold : Phase.answered c answer ∈ s.workers → answer.Exposes (own c.paymentId) :=
    h.answers c answer
  cases a with
  | mark p accounts =>
    simp only [step] at hanswer
    split at hanswer
    · simp only [List.mem_append, List.mem_singleton, reduceCtorEq, or_false] at hanswer
      exact hold hanswer
    · exact hold hanswer
  | read w =>
    simp only [step] at hanswer
    split at hanswer
    · split at hanswer
      · rename_i answer' hdurable
        rcases List.mem_or_eq_of_mem_set hanswer with hmem | heq
        · exact hold hmem
        · cases heq
          exact Worker.durable_exposes h.db hdurable
      · rcases List.mem_or_eq_of_mem_set hanswer with hmem | heq
        · exact hold hmem
        · cases heq
    · exact hold hanswer
  | charge w answer' =>
    simp only [step] at hanswer
    split at hanswer
    · rename_i claim hclaim
      rcases List.mem_or_eq_of_mem_set hanswer with hmem | heq
      · exact hold hmem
      · cases heq
        exact ha c hclaim
    · exact hold hanswer
  | finalize w =>
    simp only [step] at hanswer
    split at hanswer
    · rcases List.mem_or_eq_of_mem_set hanswer with hmem | heq
      · exact hold hmem
      · cases heq
    · exact hold hanswer
  | insertRequest c' now =>
    simp only [step] at hanswer
    split at hanswer
    · simp only [insert] at hanswer
      split_ifs at hanswer
      · exact hold hanswer
      · split at hanswer
        · simp only [accepted] at hanswer
          split at hanswer <;> exact hold hanswer
        · exact hold hanswer
    · exact hold hanswer
  | commitPayment c' now =>
    simp only [step] at hanswer
    split at hanswer
    · simp only [accepted] at hanswer
      split at hanswer <;> exact hold hanswer
    · exact hold hanswer
  | openPayment now call =>
    simp only [step] at hanswer
    split at hanswer <;> exact hold hanswer
  | _ => exact hold hanswer

/-- A step under which the provider exposes its references keeps the charges traceable. -/
lemma State.step_traceable_db {env : Env} {s : State} (hinv : s.Invariant) (h : s.Traceable own)
    {a : Action} (ha : a.Exposes own s) : (s.step env a).db.Traceable own := by
  have hopens : s.db.OpensOperation (s.step env a).db →
      (∀ q op, a.target env s = some (q, op) → op ≠ .finalize .succeeded ∧
        op ≠ .event .succeeded ∧ (op = .capture .succeeded → ∀ payment,
          s.db.payments.get? q = some payment → payment.status ≠ .authorized)) →
      (s.step env a).db.Traceable own := fun hopens hquiet =>
    h.db.opens hopens fun p v' hv' hsettled => step_settled hinv a hv' hsettled hquiet
  have hwrites := step_writes env s a
  cases a with
  | mark p accounts =>
    refine hopens ?_ (by simp [Action.target])
    simp only [step]
    split
    · rename_i claim db hrun
      exact Worker.mark_opens hrun
    · exact .refl _
  | finalize w =>
    simp only [step]
    split
    · rename_i c answer hw
      refine Db.commit_keeps h.db fun status db hrun => ?_
      have hmem := List.mem_of_getElem? hw
      exact Worker.finalize_traceable hinv.sound h.db (hinv.claims _ hmem c rfl)
        (h.answers c answer hmem) hrun
    · exact h.db
  | webhook now delivery =>
    refine Db.commit_keeps h.db fun status db hrun => ?_
    obtain ⟨eventId, eventType, reference, -, happly⟩ := providerWebhook_eq_ok hrun
    exact applyEvent_traceable hinv.sound h.db happly
  | capture p amount currency accounts outcome =>
    refine hopens (Db.commit_keeps (.refl _) fun status db hrun =>
      PaymentLifecycle.capture_opens hrun) fun q op htarget => ?_
    obtain ⟨rfl, rfl⟩ := Prod.mk.inj (Option.some.inj htarget)
    refine ⟨by simp, by simp, fun hsucceeded => ?_⟩
    cases hsucceeded
    exact ha
  | void p amount currency outcome =>
    exact hopens (Db.commit_keeps (.refl _) fun status db hrun =>
      PaymentLifecycle.void_opens hrun) (by simp [Action.target])
  | refund p amount currency accounts outcome =>
    exact hopens (Db.commit_keeps (.refl _) fun status db hrun =>
      PaymentLifecycle.refund_opens hrun) (by simp [Action.target])
  | settle report =>
    refine hopens (Db.commit_keeps (.refl _) fun status db hrun => ?_) (by simp [Action.target])
    obtain ⟨settlements, records, rfl⟩ := SettlementRepository.ingest_eq_ok hrun
    exact .inl rfl
  | approve now id reason authorization | deny id reason authorization =>
    refine hopens (.of_external (hwrites.external rfl (by simp))) ?_
    simp [Action.target]
  | configure | read | charge | openPayment | insertRequest | commitPayment | abandonPayment =>
    exact hopens (.of_external (hwrites.external rfl (by simp))) (by simp [Action.target])

lemma State.step_traceable {env : Env} {s : State} (hinv : s.Invariant) (h : s.Traceable own)
    {a : Action} (ha : a.Exposes own s) : (s.step env a).Traceable own :=
  ⟨step_traceable_db hinv h ha, fun _ _ hanswer => step_answers h ha hanswer⟩

/-! ### Reports about a settled charge -/

/-- A first report about a payment under a reference: its settlement is named and not on file, and
the amount and the currency are the payment's. -/
structure SettlementReport.TellsOf (report : SettlementReport) (db : Db) (payment : Payment)
    (reference : String) : Prop where
  provider : strip report.providerName ≠ ""
  settlement : strip report.settlementReference ≠ ""
  first : ∀ row ∈ db.settlements.rows, Settlement.key row ≠ some report.key
  carried : report.providerReference = reference
  amount : report.amount.units = payment.amount.units
  currency : normCurrency report.currency = normCurrency payment.currency
  iso : (normCurrency payment.currency).length = 3

/-- The charge is found under a reference that is its own. -/
lemma findOperation_of_unique {db : Db} {k : OperationKey} {o : ProviderOperation}
    {reference : String} (ho : db.providerOperations.row? k = some o)
    (href : o.providerReference = some reference)
    (hunique : ∀ o' ∈ db.providerOperations.rows, o'.providerReference = some reference →
      o'.idempotencyKey = k) : ∃ id, findOperation db reference = some (id, o) := by
  obtain ⟨hmem, hkey⟩ := Table.row?_eq_some.mp ho
  cases hlast : lastIdx? (fun o : ProviderOperation =>
      decide (o.providerReference = some reference)) db.providerOperations.rows with
  | none => simpa [href] using lastIdx?_eq_none.mp hlast o hmem
  | some id =>
    obtain ⟨⟨o', ho', href'⟩, -⟩ := lastIdx?_eq_some.mp hlast
    have hmem' := List.mem_of_getElem? ho'
    have hkey' := hunique o' hmem' (of_decide_eq_true href')
    obtain rfl : o' = o := Table.row_unique hmem' hmem (congrArg some hkey') hkey
    refine ⟨id, ?_⟩
    simp [findOperation, hlast, Table.get?, ho']

/-- A first report about a charge that succeeded is matched. -/
lemma SettlementRepository.ingest_matched {db : Db} (hs : db.Sound) (h : db.Traceable own)
    (hunique : Function.Injective own) {p : PaymentId} (hne : own p ≠ "")
    (hstrip : strip (own p) = own p) {payment : Payment}
    (hp : db.payments.get? p = some payment) (hsettled : payment.status.Settled)
    {report : SettlementReport} (hreport : report.TellsOf db payment (own p)) :
    ∃ db', ingest db report = .ok (.matched, db') := by
  obtain ⟨v, hv⟩ := hs.view_some hp
  have hstatus : v.status = payment.status := by
    obtain ⟨payment', request, hp', -, rfl⟩ := view_eq_some.mp hv
    cases hp.symm.trans hp'
    rfl
  obtain ⟨o, ho, hstatus⟩ := h.charged p v hv (hstatus ▸ hsettled)
  obtain ⟨hmem, hkey⟩ := Table.row?_eq_some.mp ho
  have hpaid : o.paymentId = p := by
    rw [(hs.operation o hmem).1.payment, show o.idempotencyKey = .charge p by simpa using hkey]
    rfl
  have href : o.providerReference = some (own p) := by
    obtain ⟨reference, href⟩ := Option.isSome_iff_exists.mp (h.named o hmem hstatus)
    rw [href, h.exposed o hmem reference href, hpaid]
  have hcarried : ∀ o' ∈ db.providerOperations.rows, o'.providerReference = some (own p) →
      o'.idempotencyKey = .charge p := fun o' ho' href' => by
    have hfiled := (hs.operation o' ho').1
    have hpayment : o'.paymentId = p := hunique (h.exposed o' ho' _ href').symm
    have htype : o'.operationType = .charge := by
      by_contra hother
      rw [hfiled.reference hother] at href'
      cases href'
    rw [hfiled.key_eq_charge htype, hpayment]
  obtain ⟨id, hfind⟩ := findOperation_of_unique ho href hcarried
  have hoperation : reportedOperation db (strip report.providerReference) =
      some (id, o, payment) := by
    simp [reportedOperation, hreport.carried, hstrip, hfind, hpaid, hp]
  have hreconcile : reconcile (some (id, o, payment)) report.amount
      (normCurrency report.currency) = (.matched, none) := by
    have hcurrency :
        normCurrency payment.currency = normCurrency (normCurrency report.currency) := by
      rw [normCurrency_normCurrency, hreport.currency]
    have hamount : payment.amount.toDecimal.units = report.amount.units := by
      rw [hreport.amount, Amount.units_toDecimal]
    simp only [reconcile, hstatus, ne_eq, not_true_eq_false, if_false]
    exact compareAmounts_matched.mpr ⟨hcurrency, hamount⟩
  have hvalid : validateReport report = .ok () := by
    rw [validateReport, if_neg, if_neg, if_neg]
    · rw [hreport.currency]
      exact not_not.mpr hreport.iso
    · rw [hreport.amount, not_le]
      exact payment.amount.units_cast_pos
    · rw [hreport.carried, hstrip]
      simp [hreport.provider, hreport.settlement, hne]
  have hstore : storeNumeric report.amount = .ok payment.amount.units := by
    rw [storeNumeric, hreport.amount, roundUnits_natCast]
    exact if_pos payment.amount.fits
  obtain ⟨settlements, hinsert⟩ :
      ∃ settlements, insertReport db report = .ok (some settlements) := by
    cases hinsert : insertReport db report with
    | error e =>
      rw [insertReport, hstore] at hinsert
      cases hinsert
    | ok inserted =>
      cases inserted with
      | none =>
        obtain ⟨row, hrow, hkey⟩ := insertReport_eq_none hinsert
        exact absurd hkey (hreport.first row hrow)
      | some settlements => exact ⟨settlements, rfl⟩
  refine ⟨(conclude db report settlements).2, ?_⟩
  have hconclude : (conclude db report settlements).1 = .matched := by
    simp only [conclude, hoperation, hreconcile, if_true]
  rw [ingest, hvalid, hinsert, ← hconclude]
  rfl

/-! ### Runs -/

/-- Before any charge there is nothing to trace. -/
lemma Db.Blank.traceable {db : Db} (h : db.Blank)
    (hnew : ∀ row ∈ db.payments.rows, ¬ row.status.Settled) : db.Traceable own where
  exposed o ho := by
    rw [h.providerOperations] at ho
    cases ho
  named o ho := by
    rw [h.providerOperations] at ho
    cases ho
  charged p v hv hsettled := by
    obtain ⟨payment, request, hp, -, rfl⟩ := view_eq_some.mp hv
    exact absurd hsettled (hnew payment (Table.mem_of_get? hp))

/-- In a run in which no authorized payment is captured and the provider has a reference of its own
for every charge, a first report about a payment that succeeded is matched. -/
theorem State.run_reconciles {env : Env} {db : Db} (hblank : db.Blank)
    (hnew : ∀ row ∈ db.payments.rows, ¬ row.status.Settled) (hunique : Function.Injective own)
    {as : List Action}
    (hrun : Machine.Along (State.step env) (fun s a => a.Exposes own s) (.start db) as)
    {p : PaymentId} (hne : own p ≠ "") (hstrip : strip (own p) = own p) {payment : Payment}
    (hp : (Machine.run (State.step env) (.start db) as).db.payments.get? p = some payment)
    (hsucceeded : payment.status = .succeeded) {report : SettlementReport}
    (hreport : report.TellsOf (Machine.run (State.step env) (.start db) as).db payment (own p)) :
    ∃ db', SettlementRepository.ingest (Machine.run (State.step env) (.start db) as).db report =
      .ok (.matched, db') := by
  have hstart : (State.start db).Invariant ∧ (State.start db).Traceable own := by
    refine ⟨hblank.invariant, hblank.traceable hnew, fun c answer hanswer => ?_⟩
    cases hanswer
  obtain ⟨hinv, htraceable⟩ := Machine.Along.invariant
    (I := fun s => s.Invariant ∧ s.Traceable own)
    (fun s a h ha => ⟨step_invariant h.1 a, step_traceable h.1 h.2 ha⟩) hstart hrun
  exact SettlementRepository.ingest_matched hinv.sound htraceable.db hunique hne hstrip hp
    (.inl hsucceeded) hreport

end Exposed

/-- A provider that names its charges in unary. -/
def unaryReference (p : PaymentId) : String := String.ofList (List.replicate (p + 1) 'r')

lemma unaryReference_injective : Function.Injective unaryReference := fun p q h => by
  have hlist : List.replicate (p + 1) 'r' = List.replicate (q + 1) 'r' := String.ofList_injective h
  simpa using congrArg List.length hlist

/-- A first report of 25 USD under a reference. -/
def SettlementReport.sample (reference : String) : SettlementReport :=
  ⟨"mock", "settlement", reference, ⟨25, 0⟩, "USD"⟩

lemma SettlementReport.sample_tells {db : Db} (hfirst : db.settlements.rows = [])
    {payment : Payment} {status : PaymentStatus}
    (hrow : (payment.status, payment.amount.units, payment.currency) = (status, 250000, "USD")) :
    (sample "r").TellsOf db payment (unaryReference 0) := by
  obtain ⟨-, hamount, hcurrency⟩ : payment.status = status ∧ payment.amount.units = 250000 ∧
      payment.currency = "USD" := by
    simpa using hrow
  refine ⟨by decide, by decide, by simp [hfirst], by decide, ?_, ?_, ?_⟩
  · rw [hamount]
    norm_num [sample, Decimal.units]
  · rw [hcurrency]
    rfl
  · rw [hcurrency]
    decide

/-- A worker's charge, its answer, and the report that names the answer's reference. -/
theorem State.run_reconciles_charge :
    let s := Machine.run (State.step .bare) (.start (.seeded .processing (some .reserved)))
      [.mark 0 ⟨0, 1⟩, .read 0, .charge 0 ⟨.succeeded, some "r"⟩, .finalize 0]
    ∃ db', SettlementRepository.ingest s.db (.sample "r") = .ok (.matched, db') := by
  intro s
  have hrow : (s.db.payments.get? 0).map (fun p => (p.status, p.amount.units, p.currency)) =
      some (.succeeded, 250000, "USD") := by
    decide +kernel
  obtain ⟨payment, hp, hrow⟩ := Option.map_eq_some_iff.mp hrow
  have hrun : Machine.Along (State.step .bare) (fun s a => a.Exposes unaryReference s)
      (.start (.seeded .processing (some .reserved)))
      [.mark 0 ⟨0, 1⟩, .read 0, .charge 0 ⟨.succeeded, some "r"⟩, .finalize 0] := by
    refine ⟨trivial, trivial, fun c hc => ?_, trivial, trivial⟩
    have hclaim : ((Machine.run (State.step .bare)
        (.start (.seeded .processing (some .reserved))) [.mark 0 ⟨0, 1⟩, .read 0]).workers[0]?.bind
          Phase.claim?).map (·.paymentId) = some 0 := by
      decide +kernel
    have hpayment : c.paymentId = 0 := by
      simpa [hc, Phase.claim?] using hclaim
    rw [hpayment]
    exact ⟨by decide, by decide⟩
  exact State.run_reconciles (Db.seeded_blank _ _) (by decide) unaryReference_injective hrun
    (by decide) (by decide) hp (congrArg Prod.fst hrow)
    (SettlementReport.sample_tells (by decide +kernel) hrow)

/-- After a capture of an authorized payment no operation carries a reference, and the first report
about the payment is a discrepancy. -/
theorem State.captured_unreferenced :
    let s := Machine.run (State.step .bare) (.start (.seeded .authorized (some .reserved)))
      [.capture 0 ⟨25, 0⟩ "USD" ⟨0, 1⟩ .succeeded]
    (∃ payment, s.db.payments.get? 0 = some payment ∧ payment.status = .succeeded ∧
      (SettlementReport.sample "r").TellsOf s.db payment (unaryReference 0)) ∧
    (SettlementRepository.ingest s.db (.sample "r")).map (fun answer => (answer.1,
        answer.2.reconciliationRecords.map (·.discrepancyCode))) =
      .ok (.discrepancy, [some "UNKNOWN_PROVIDER_REFERENCE"]) := by
  intro s
  have hrow : (s.db.payments.get? 0).map (fun p => (p.status, p.amount.units, p.currency)) =
      some (.succeeded, 250000, "USD") := by
    decide +kernel
  obtain ⟨payment, hp, hrow⟩ := Option.map_eq_some_iff.mp hrow
  exact ⟨⟨payment, hp, congrArg Prod.fst hrow,
    SettlementReport.sample_tells (by decide +kernel) hrow⟩, by decide +kernel⟩

end AgentPay
