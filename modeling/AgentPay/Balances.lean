import AgentPay.CaptureLedger
import AgentPay.Idempotency
import AgentPay.LateOutcome
import AgentPay.WorkerRunner
import Mathlib.Algebra.BigOperators.Ring.Finset
import Mathlib.Algebra.BigOperators.Ring.Multiset

/-!
# The balance of a ledger account

Every journal moves money of one payment between the two accounts of that payment: a capture from
the customer's to the provider's clearing account, a refund back. So while nobody reconfigures the
accounts, what stands on an account is what the payments that are booked on it have moved.
-/

namespace AgentPay

open Support

/-! ### Journals -/

/-- A capture from the customer's account to the clearing account, or a refund back. -/
def LedgerJournal.Moves (accounts : LedgerAccounts) (j : LedgerJournal) : Prop :=
  match j.idempotencyKey with
  | .capture _ => ∃ amount currency reference, j =
      transferJournal accounts.customer accounts.clearing amount currency reference j.idempotencyKey
  | .refund _ _ _ => ∃ amount currency reference, j =
      transferJournal accounts.clearing accounts.customer amount currency reference j.idempotencyKey

/-- What operators configure of the accounts, and the ledger. -/
def Db.ledger (db : Db) : List Wallet × List LedgerAccount × List PaymentProviderAccount ×
    Table LedgerJournal LedgerJournal.key :=
  (db.wallets, db.ledgerAccounts, db.paymentProviderAccounts, db.ledgerJournals)

/-- The accounts stay, and journals are added that move money of payments between accounts as `uses`
allows. -/
structure Db.Posts (uses : PaymentId → LedgerAccounts → Prop) (db db' : Db) : Prop where
  wallets : db'.wallets = db.wallets
  ledgerAccounts : db'.ledgerAccounts = db.ledgerAccounts
  providerAccounts : db'.paymentProviderAccounts = db.paymentProviderAccounts
  journals : ∃ js, db'.ledgerJournals.rows = db.ledgerJournals.rows ++ js ∧
    ∀ j ∈ js, ∃ accounts, uses j.idempotencyKey.paymentId accounts ∧ j.Moves accounts

namespace Db.Posts

variable {uses : PaymentId → LedgerAccounts → Prop} {db db' db'' : Db}

lemma of_ledger (h : db'.ledger = db.ledger) : db.Posts uses db' where
  wallets := congrArg (·.1) h
  ledgerAccounts := congrArg (·.2.1) h
  providerAccounts := congrArg (·.2.2.1) h
  journals := by
    have hjournals : db'.ledgerJournals = db.ledgerJournals := congrArg (·.2.2.2) h
    exact ⟨[], by rw [hjournals, List.append_nil], nofun⟩

lemma refl (db : Db) : db.Posts uses db := of_ledger rfl

lemma trans (h : db.Posts uses db') (h' : db'.Posts uses db'') : db.Posts uses db'' where
  wallets := h'.wallets.trans h.wallets
  ledgerAccounts := h'.ledgerAccounts.trans h.ledgerAccounts
  providerAccounts := h'.providerAccounts.trans h.providerAccounts
  journals := by
    obtain ⟨js, hjs, hmoves⟩ := h.journals
    obtain ⟨js', hjs', hmoves'⟩ := h'.journals
    refine ⟨js ++ js', by rw [hjs', hjs, List.append_assoc], fun j hj => ?_⟩
    rcases List.mem_append.mp hj with hj | hj
    · exact hmoves j hj
    · exact hmoves' j hj

lemma of_ledger_left (h : db'.Posts uses db'') (hledger : db'.ledger = db.ledger) :
    db.Posts uses db'' :=
  (of_ledger hledger).trans h

/-- A transfer is posted, unless its key is taken. -/
lemma transfer {debitAccount creditAccount : LedgerAccountId} {amount : Decimal} {currency : String}
    {reference : JournalReference} {key : JournalKey} {id : ℕ}
    (hmoves : ∀ stored, ∃ accounts, uses key.paymentId accounts ∧
      (transferJournal debitAccount creditAccount stored currency reference key).Moves accounts)
    (hrun : postJournal db currency reference key
      (AgentPay.transfer debitAccount creditAccount amount currency) = .ok (id, db')) :
    db.Posts uses db' := by
  obtain ⟨-, ⟨-, rfl⟩ | ⟨-, -, -, -, stored, journals, -, hinsert, rfl⟩⟩ :=
    postJournal_transfer_eq_ok.mp hrun
  · exact .refl _
  · refine ⟨rfl, rfl, rfl, _, (Table.insert?_eq_some.mp hinsert).2, fun j hj => ?_⟩
    obtain rfl := List.mem_singleton.mp hj
    exact hmoves stored

lemma capture {p : PaymentId} {accounts : LedgerAccounts} (huses : uses p accounts)
    {amount : Decimal} {currency : String} {reference : JournalReference} {id : ℕ}
    (hrun : postJournal db currency reference (.capture p)
      (AgentPay.transfer accounts.customer accounts.clearing amount currency) = .ok (id, db')) :
    db.Posts uses db' := by
  refine transfer (fun stored => ?_) hrun
  exact ⟨accounts, huses, stored, currency, reference, rfl⟩

lemma refund {p : PaymentId} {accounts : LedgerAccounts} (huses : uses p accounts)
    {amount keyed : Decimal} {currency rawCurrency : String} {reference : JournalReference} {id : ℕ}
    (hrun : postJournal db currency reference (.refund p keyed rawCurrency)
      (AgentPay.transfer accounts.clearing accounts.customer amount currency) = .ok (id, db')) :
    db.Posts uses db' := by
  refine transfer (fun stored => ?_) hrun
  exact ⟨accounts, huses, stored, currency, reference, rfl⟩

end Db.Posts

/-! ### Operations -/

section Operations

variable {uses : PaymentId → LedgerAccounts → Prop} {db db' : Db} {p : PaymentId}

lemma PaymentRepository.createProviderOperation_ledger {type : OperationType} {key : OperationKey}
    {id : OperationId} (hrun : createProviderOperation db p type key = .ok (id, db')) :
    db'.ledger = db.ledger := by
  rcases createProviderOperation_eq_ok hrun with ⟨operations, -, -, rfl⟩ | ⟨-, rfl⟩ <;> rfl

lemma PaymentRepository.updateStatus_ledger (db : Db) (p : PaymentId) (status : PaymentStatus)
    (reference : Option String) : (updateStatus db p status reference).ledger = db.ledger := rfl

lemma BudgetRepository.settle_ledger {id : ReservationId} {status : ReservationStatus}
    {f : Budget → Amount → Except Error Budget} (hrun : settle db id status f = .ok db') :
    db'.ledger = db.ledger := by
  obtain ⟨row, budgets, -, rfl⟩ := settle_eq_ok hrun
  rfl

lemma PaymentLifecycle.createTransaction_ledger {type : TransactionType} {amount : Decimal}
    {currency : String} {key : TransactionKey} {status : TransactionStatus} {id : TransactionId}
    (hrun : createTransaction db p type amount currency key status = .ok (id, db')) :
    db'.ledger = db.ledger := by
  rcases createTransaction_eq_ok hrun with ⟨-, -, -, rfl⟩ | ⟨-, -, -, -, transactions, -, rfl⟩ <;>
    rfl

lemma ProviderEventResolver.createTransaction_ledger {amount : Decimal} {currency : String}
    {reference : Option String} {id : TransactionId}
    (hrun : createTransaction db p amount currency reference = .ok (id, db')) :
    db'.ledger = db.ledger := by
  rcases createTransaction_eq_ok hrun with ⟨-, -, -, rfl⟩ | ⟨-, -, -, -, transactions, -, rfl⟩ <;>
    rfl

lemma PaymentOrchestrator.upsertCapture_ledger {amount : Decimal} {currency : String}
    {id : TransactionId} (hrun : upsertCapture db p amount currency = .ok (id, db')) :
    db'.ledger = db.ledger := by
  simp only [upsertCapture] at hrun
  obtain ⟨stored, -, hrun⟩ := Except.bind_eq_ok.mp hrun
  split at hrun
  · obtain ⟨-, rfl⟩ := Prod.mk.inj (Except.ok.inj hrun)
    rfl
  · split at hrun
    · cases hrun
    · obtain ⟨-, rfl⟩ := Prod.mk.inj (Except.ok.inj hrun)
      rfl

lemma Worker.mark_ledger {accounts : LedgerAccounts} {c : Claim}
    (hrun : mark db p accounts = .ok (c, db')) :
    db'.ledger = db.ledger ∧ c.paymentId = p ∧ c.accounts = accounts := by
  obtain ⟨payment, request, reservationId, operationId, operations, -, -, -, -, rfl, rfl⟩ :=
    mark_eq_ok hrun
  exact ⟨rfl, rfl, rfl⟩

lemma PaymentOrchestrator.finalize_posts {accounts : LedgerAccounts} (huses : uses p accounts)
    {requestId : RequestId} {reservationId : ReservationId} {amount : Decimal} {currency : String}
    {outcome : ProviderOutcome} {reference : Option String} {status : PaymentStatus}
    (hrun : finalize db p requestId reservationId amount currency accounts outcome reference =
      .ok (status, db')) : db.Posts uses db' := by
  simp only [finalize] at hrun
  split at hrun
  · cases hrun
  split_ifs at hrun
  · obtain ⟨-, rfl⟩ := Prod.mk.inj (Except.ok.inj hrun)
    exact .refl _
  · obtain ⟨-, rfl⟩ := Prod.mk.inj (Except.ok.inj hrun)
    exact .refl _
  · obtain ⟨-, rfl⟩ := Prod.mk.inj (Except.ok.inj hrun)
    exact .refl _
  cases outcome with
  | unknown =>
    obtain ⟨-, rfl⟩ := Prod.mk.inj (Except.ok.inj hrun)
    exact .of_ledger rfl
  | failed =>
    obtain ⟨db₃, hfailed, hrun⟩ := Except.bind_eq_ok.mp hrun
    obtain ⟨-, rfl⟩ := Prod.mk.inj (Except.ok.inj hrun)
    obtain ⟨db₂, hrelease, hfailed⟩ := Except.bind_eq_ok.mp hfailed
    obtain rfl := Except.ok.inj hfailed
    exact .of_ledger (BudgetRepository.settle_ledger hrelease :)
  | succeeded =>
    obtain ⟨db₅, hsucceeded, hrun⟩ := Except.bind_eq_ok.mp hrun
    obtain ⟨-, rfl⟩ := Prod.mk.inj (Except.ok.inj hrun)
    obtain ⟨db₂, hconsume, hsucceeded⟩ := Except.bind_eq_ok.mp hsucceeded
    obtain ⟨⟨t, db₃⟩, hupsert, hsucceeded⟩ := Except.bind_eq_ok.mp hsucceeded
    obtain ⟨⟨j, db₄⟩, hpost, hsucceeded⟩ := Except.bind_eq_ok.mp hsucceeded
    obtain rfl := Except.ok.inj hsucceeded
    have hbefore : db₃.ledger = db.ledger :=
      (upsertCapture_ledger hupsert).trans (BudgetRepository.settle_ledger hconsume :)
    exact ((Db.Posts.of_ledger hbefore).trans (.capture huses hpost)).trans (.of_ledger rfl)

lemma ProviderEventResolver.resolve_posts {event : EventId} {id : OperationId} {outcome : String}
    {reference : Option String} {accounts : LedgerAccounts} {resolution : Resolution}
    (huses : ∀ o, db.providerOperations.get? id = some o → uses o.paymentId accounts)
    (hrun : resolve db event id outcome reference accounts = .ok (resolution, db')) :
    db.Posts uses db' := by
  obtain ⟨row, -, -, ⟨-, -, rfl⟩ | ⟨-, o, payment, request, hop, hcase⟩⟩ := resolve_eq_ok hrun
  · exact .refl _
  have ho : uses o.paymentId accounts := by
    obtain ⟨o', ho', hop⟩ := Option.bind_eq_some_iff.mp hop
    obtain ⟨payment', -, hop⟩ := Option.bind_eq_some_iff.mp hop
    obtain ⟨request', -, hop⟩ := Option.bind_eq_some_iff.mp hop
    obtain ⟨rfl, -⟩ := Prod.mk.inj (Option.some.inj hop)
    exact huses o' ho'
  rcases hcase with ⟨-, -, rfl⟩ | ⟨-, -, db₁, rfl, ⟨-, hdone⟩ | ⟨-, hdone⟩⟩
  · exact .of_ledger rfl
  · simp only [resolveSucceeded] at hdone
    split_ifs at hdone
    · obtain ⟨db₂, hsettle, hdone⟩ := Except.bind_eq_ok.mp hdone
      obtain rfl := Except.ok.inj hdone
      simp only [settleCharge] at hsettle
      split at hsettle
      · cases hsettle
      obtain ⟨db₃, hconsume, hsettle⟩ := Except.bind_eq_ok.mp hsettle
      obtain ⟨⟨t, db₄⟩, hcreate, hsettle⟩ := Except.bind_eq_ok.mp hsettle
      obtain ⟨⟨j, db₅⟩, hpost, hsettle⟩ := Except.bind_eq_ok.mp hsettle
      obtain rfl := Except.ok.inj hsettle
      have hbefore : db₄.ledger = db.ledger :=
        (createTransaction_ledger hcreate).trans (BudgetRepository.settle_ledger hconsume :)
      exact ((Db.Posts.of_ledger hbefore).trans (.capture ho hpost)).trans (.of_ledger rfl)
    · obtain rfl := Except.ok.inj hdone
      exact .of_ledger rfl
  · simp only [resolveFailed] at hdone
    split at hdone
    · obtain ⟨db₂, hrelease, hdone⟩ := Except.bind_eq_ok.mp hdone
      obtain rfl := Except.ok.inj hdone
      exact .of_ledger (BudgetRepository.settle_ledger hrelease :)
    · obtain rfl := Except.ok.inj hdone
      exact .of_ledger rfl

lemma providerWebhook_posts
    (huses : ∀ p accounts, ledgerAccounts db p = some accounts → uses p accounts)
    {window : Option ℤ} {now : ℤ} {delivery : Delivery} {status : WebhookStatus}
    (hrun : providerWebhook window now db delivery = .ok (status, db')) : db.Posts uses db' := by
  obtain ⟨eventId, eventType, reference, -, happly⟩ := providerWebhook_eq_ok hrun
  rcases applyEvent_eq_ok happly with ⟨events, rfl⟩ |
    ⟨-, event, outcome, reference, id, o, accounts, resolution, -, -, -, hfind, haccounts, events,
      hresolve⟩
  · exact .of_ledger rfl
  · obtain ⟨hget, -⟩ := findOperation_eq_some hfind
    have hresolved : ({ db with providerEvents := events } : Db).Posts uses db' := by
      refine ProviderEventResolver.resolve_posts (fun o' ho' => ?_) hresolve
      obtain rfl := Option.some.inj (hget.symm.trans ho')
      exact huses _ _ haccounts
    exact hresolved.of_ledger_left rfl

/-- A capture, a void or a refund with the provider's answer. -/
lemma PaymentLifecycle.capture_posts {amount : Decimal} {currency : String}
    {accounts : LedgerAccounts} (huses : uses p accounts) {outcome : ProviderOutcome}
    {status : PaymentStatus}
    (hrun : capture db p amount currency accounts >>= Progress.answer outcome = .ok (status, db')) :
    db.Posts uses db' := by
  obtain ⟨progress, hprogress, hanswer⟩ := Except.bind_eq_ok.mp hrun
  rcases capture_eq_ok hprogress with rfl | ⟨payment, id, db₁, minor, -, -, -, hop, -, rfl⟩
  · obtain ⟨-, rfl⟩ := Prod.mk.inj (Except.ok.inj hanswer)
    exact .refl _
  have h₁ : db.Posts uses db₁ :=
    .of_ledger (PaymentRepository.createProviderOperation_ledger hop)
  cases outcome with
  | unknown =>
    obtain ⟨-, rfl⟩ := Prod.mk.inj (Except.ok.inj hanswer)
    exact h₁.trans (.of_ledger rfl)
  | failed =>
    obtain ⟨⟨t, db₂⟩, hcreate, hanswer⟩ := Except.bind_eq_ok.mp hanswer
    obtain ⟨-, rfl⟩ := Prod.mk.inj (Except.ok.inj hanswer)
    exact h₁.trans (.of_ledger (createTransaction_ledger hcreate :))
  | succeeded =>
    obtain ⟨⟨t, db₂⟩, hcreate, hanswer⟩ := Except.bind_eq_ok.mp hanswer
    obtain ⟨⟨j, db₃⟩, hpost, hanswer⟩ := Except.bind_eq_ok.mp hanswer
    obtain ⟨-, rfl⟩ := Prod.mk.inj (Except.ok.inj hanswer)
    exact ((h₁.trans (.of_ledger (createTransaction_ledger hcreate))).trans
      (.capture huses hpost)).trans (.of_ledger rfl)

lemma PaymentLifecycle.void_ledger {amount : Decimal} {currency : String}
    {outcome : ProviderOutcome} {status : PaymentStatus}
    (hrun : void db p amount currency >>= Progress.answer outcome = .ok (status, db')) :
    db'.ledger = db.ledger := by
  obtain ⟨progress, hprogress, hanswer⟩ := Except.bind_eq_ok.mp hrun
  rcases void_eq_ok hprogress with rfl | ⟨payment, id, db₁, minor, -, -, -, hop, -, rfl⟩
  · obtain ⟨-, rfl⟩ := Prod.mk.inj (Except.ok.inj hanswer)
    rfl
  have h₁ : db₁.ledger = db.ledger :=
    (PaymentRepository.createProviderOperation_ledger hop :)
  cases outcome with
  | unknown =>
    obtain ⟨-, rfl⟩ := Prod.mk.inj (Except.ok.inj hanswer)
    exact h₁
  | failed | succeeded =>
    obtain ⟨⟨t, db₂⟩, hcreate, hanswer⟩ := Except.bind_eq_ok.mp hanswer
    obtain ⟨-, rfl⟩ := Prod.mk.inj (Except.ok.inj hanswer)
    exact (createTransaction_ledger hcreate :).trans h₁

lemma PaymentLifecycle.refund_posts {amount : Decimal} {rawCurrency : String}
    {accounts : LedgerAccounts} (huses : uses p accounts) {outcome : ProviderOutcome}
    {status : PaymentStatus}
    (hrun : refund db p amount rawCurrency accounts >>= Progress.answer outcome =
      .ok (status, db')) : db.Posts uses db' := by
  obtain ⟨progress, hprogress, hanswer⟩ := Except.bind_eq_ok.mp hrun
  rcases refund_eq_ok hprogress with ⟨replayed, rfl, -⟩ |
    ⟨payment, id, db₁, refundId, db₂, minor, -, -, -, -, -, -, hop, hcreate, -, rfl⟩
  · obtain ⟨-, rfl⟩ := Prod.mk.inj (Except.ok.inj hanswer)
    exact .refl _
  have h₂ : db.Posts uses db₂ := .of_ledger ((createTransaction_ledger hcreate).trans
    (PaymentRepository.createProviderOperation_ledger hop :))
  cases outcome with
  | unknown | failed =>
    obtain ⟨-, rfl⟩ := Prod.mk.inj (Except.ok.inj hanswer)
    exact h₂.trans (.of_ledger rfl)
  | succeeded =>
    obtain ⟨⟨j, db₃⟩, hpost, hanswer⟩ := Except.bind_eq_ok.mp hanswer
    obtain ⟨-, rfl⟩ := Prod.mk.inj (Except.ok.inj hanswer)
    have h₃ : (setTransactionStatus db₂ refundId .posted).Posts uses db₃ := .refund huses hpost
    exact (h₂.trans (h₃.of_ledger_left rfl)).trans
      (.of_ledger (PaymentRepository.updateStatus_ledger ..))

end Operations

/-! ### Steps -/

/-- The accounts that a step may post a payment's journal between. -/
def Action.Uses (s : State) : Action → PaymentId → LedgerAccounts → Prop
  | .finalize w, p, accounts =>
    ∃ c answer, s.workers[w]? = some (.answered c answer) ∧ c.paymentId = p ∧ c.accounts = accounts
  | .webhook _ _, p, accounts => ledgerAccounts s.db p = some accounts
  | .capture q _ _ given _, p, accounts | .refund q _ _ given _, p, accounts =>
    q = p ∧ given = accounts
  | _, _, _ => False

namespace State

variable {env : Env} {s : State}

/-- A decision leaves the accounts and the ledger alone. -/
lemma Writes.ledger {a : Action} {db : Db} (h : Writes env s a db) (ha : a.executes = false)
    (hconfigure : ∀ c, a ≠ .configure c) (hfinalize : ∀ w, a ≠ .finalize w) :
    db.ledger = s.db.ledger := by
  cases h with
  | nothing | replays => rfl
  | configures c => exact absurd rfl (hconfigure c)
  | executes hexecutes => rw [ha] at hexecutes; cases hexecutes
  | @finalizes w => exact absurd rfl (hfinalize w)
  | accepts hcreation hopens hdecides =>
    obtain ⟨v, -, hcommits, -⟩ := hopens.decided hdecides
    rw [hcommits.rest]
    rfl
  | @approves now id reason authorization x _ hrun =>
    obtain ⟨q, status⟩ := x
    obtain ⟨actor, approval, request, payment', budgetId, budget, happroves⟩ :=
      approvePayment_rows hrun
    rw [happroves.rest]
    rfl
  | @denies id reason authorization x _ hrun =>
    obtain ⟨q, status⟩ := x
    obtain ⟨actor, approval, request, payment, -, -, -, rfl⟩ := denyPayment_eq_ok hrun
    rfl

/-- What a unit of work posts when it returns is what the step posts. -/
lemma commit_posts {α : Type} {uses : PaymentId → LedgerAccounts → Prop}
    {body : Except Error (α × Db)} (hbody : ∀ x db, body = .ok (x, db) → s.db.Posts uses db) :
    s.db.Posts uses (s.commit body).db :=
  Db.commit_keeps (I := s.db.Posts uses) (.refl _) hbody

/-- Unless the accounts are configured, they stay, and the journals that are added move money
between those that the step uses. -/
lemma step_posts (env : Env) (s : State) {a : Action} (ha : ∀ c, a ≠ .configure c) :
    s.db.Posts (a.Uses s) (s.step env a).db := by
  cases a with
  | configure c => exact absurd rfl (ha c)
  | mark p accounts =>
    simp only [step]
    split
    · rename_i claim db hrun
      exact .of_ledger (Worker.mark_ledger hrun).1
    · exact .refl _
  | read w =>
    simp only [step]
    split
    · split <;> exact .refl _
    · exact .refl _
  | charge w answer =>
    simp only [step]
    split <;> exact .refl _
  | finalize w =>
    simp only [step]
    split
    · rename_i c answer hw
      exact commit_posts fun status db hrun =>
        PaymentOrchestrator.finalize_posts ⟨c, answer, hw, rfl, rfl⟩ hrun
    · exact .refl _
  | webhook now delivery =>
    exact commit_posts fun status db hrun => providerWebhook_posts (fun _ _ h => h) hrun
  | capture p amount currency accounts outcome =>
    exact commit_posts fun status db hrun => PaymentLifecycle.capture_posts ⟨rfl, rfl⟩ hrun
  | void p amount currency outcome =>
    exact commit_posts fun status db hrun => .of_ledger (PaymentLifecycle.void_ledger hrun)
  | refund p amount currency accounts outcome =>
    exact commit_posts fun status db hrun => PaymentLifecycle.refund_posts ⟨rfl, rfl⟩ hrun
  | settle report =>
    refine commit_posts fun status db hrun => ?_
    obtain ⟨settlements, records, rfl⟩ := SettlementRepository.ingest_eq_ok hrun
    exact .of_ledger rfl
  | openPayment | insertRequest | commitPayment | abandonPayment | approve | deny =>
    exact .of_ledger ((step_writes env s _).ledger rfl (by rintro _ ⟨⟩) (by rintro _ ⟨⟩))

/-- What a worker knows of its payment's accounts it was told when it marked the payment. -/
lemma step_accounts (a : Action) {phase : Phase} (hphase : phase ∈ (s.step env a).workers)
    {c : Worker.Claim} (hc : c ∈ phase.claim?) :
    (∃ phase' ∈ s.workers, c ∈ phase'.claim?) ∨ a = .mark c.paymentId c.accounts := by
  have hset : ∀ {w new}, phase ∈ s.workers.set w new → (c ∈ new.claim? →
      ∃ phase' ∈ s.workers, c ∈ phase'.claim?) → ∃ phase' ∈ s.workers, c ∈ phase'.claim? := by
    intro w new hmem hnew
    rcases List.mem_or_eq_of_mem_set hmem with hmem | rfl
    · exact ⟨phase, hmem, hc⟩
    · exact hnew hc
  have hkept (h : (s.step env a).workers = s.workers) : ∃ phase' ∈ s.workers, c ∈ phase'.claim? :=
    ⟨phase, h ▸ hphase, hc⟩
  have haccepted : ∀ now creation i, (s.accepted env now creation i).workers = s.workers := by
    intro now creation i
    simp only [accepted]
    split <;> rfl
  cases a with
  | mark p accounts =>
    simp only [step] at hphase
    split at hphase
    · rename_i claim db hrun
      rcases List.mem_append.mp hphase with hmem | hmem
      · exact .inl ⟨phase, hmem, hc⟩
      · obtain rfl := List.mem_singleton.mp hmem
        obtain rfl : claim = c := Option.some.inj hc
        obtain ⟨-, rfl, rfl⟩ := Worker.mark_ledger hrun
        exact .inr rfl
    · exact .inl ⟨phase, hphase, hc⟩
  | read w =>
    simp only [step] at hphase
    split at hphase
    · rename_i claim heq
      have hold (hnew : c = claim) : ∃ phase' ∈ s.workers, c ∈ phase'.claim? :=
        ⟨_, List.mem_of_getElem? heq, hnew ▸ rfl⟩
      split at hphase <;> exact .inl (hset hphase fun hnew => hold (Option.some.inj hnew).symm)
    · exact .inl ⟨phase, hphase, hc⟩
  | charge w answer =>
    simp only [step] at hphase
    split at hphase
    · rename_i claim heq
      exact .inl (hset hphase fun hnew => ⟨_, List.mem_of_getElem? heq, hnew⟩)
    · exact .inl ⟨phase, hphase, hc⟩
  | finalize w =>
    simp only [step] at hphase
    split at hphase
    · exact .inl (hset hphase fun hnew => by cases hnew)
    · exact .inl ⟨phase, hphase, hc⟩
  | openPayment now call =>
    refine .inl (hkept ?_)
    simp only [step]
    split <;> rfl
  | insertRequest creation now =>
    refine .inl (hkept ?_)
    simp only [step]
    split
    · simp only [insert]
      split_ifs
      · rfl
      · split
        · exact haccepted ..
        · rfl
    · rfl
  | commitPayment creation now =>
    refine .inl (hkept ?_)
    simp only [step]
    split
    · exact haccepted ..
    · rfl
  | _ => exact .inl ⟨phase, hphase, hc⟩

/-- The accounts of a payment stay until they are configured. -/
lemma step_ledgerAccounts {a : Action} (ha : ∀ c, a ≠ .configure c) {p : PaymentId}
    {accounts : LedgerAccounts} (h : ledgerAccounts s.db p = some accounts) :
    ledgerAccounts (s.step env a).db p = some accounts := by
  obtain ⟨payment, request, hpayment, hrequest, hcustomer, hclearing⟩ := accountsIn_eq_some.mp h
  obtain ⟨payment', hpayment', hterms⟩ := @step_payment env s _ _ hpayment a
  obtain ⟨request', hrequest', horder⟩ := @step_order env s _ _ hrequest a
  have hid : payment'.paymentRequestId = payment.paymentRequestId := congrArg (·.1) hterms
  have hcurrency : payment'.currency = payment.currency := congrArg (·.2.2) hterms
  have haccount : request'.accountId = request.accountId :=
    (congrArg PaymentRequest.accountId horder :)
  have hposts := step_posts env s ha
  refine accountsIn_eq_some.mpr ⟨payment', request', hpayment', hid ▸ hrequest', ?_, ?_⟩
  · rw [customerAccount_congr hposts.wallets hposts.ledgerAccounts, hcurrency, haccount]
    exact hcustomer
  · rw [clearingAccount_congr hposts.providerAccounts, hcurrency]
    exact hclearing

end State

/-! ### Sums -/

/-- What a payment has moved from its customer's account to the clearing account. -/
def Db.moved (db : Db) (p : PaymentId) : ℤ :=
  (journalView db p).debited - (journalView db p).credited

/-- The payments of the customer that an account is of. -/
def Db.paidFrom (db : Db) (account : LedgerAccountId) : Finset PaymentId :=
  (Finset.range db.payments.nextId).filter fun p =>
    (AgentPay.ledgerAccounts db p).map (·.customer) = some account

/-- The payments that an account clears. -/
def Db.clearedOn (db : Db) (account : LedgerAccountId) : Finset PaymentId :=
  (Finset.range db.payments.nextId).filter fun p =>
    (AgentPay.ledgerAccounts db p).map (·.clearing) = some account

/-- A journal that moves money shows on the accounts of its payment. -/
lemma LedgerJournal.Moves.net {j : LedgerJournal} {accounts : LedgerAccounts}
    (h : j.Moves accounts) (account : LedgerAccountId) :
    j.net account =
      ((j.captureDebit j.idempotencyKey.paymentId : ℤ) -
        j.refundCredit j.idempotencyKey.paymentId) *
      ((if accounts.customer = account then 1 else 0) -
        if accounts.clearing = account then 1 else 0) := by
  unfold Moves at h
  split at h
  · rename_i q hkey
    obtain ⟨amount, currency, reference, hj⟩ := h
    rw [hkey] at hj
    subst hj
    rw [net_transferJournal, transferred, captureDebit, refundCredit]
    simp only [transferJournal, JournalKey.paymentId, if_true]
    rw [← transferJournal, total_transferJournal]
    split_ifs <;> ring
  · rename_i q d c hkey
    obtain ⟨amount, currency, reference, hj⟩ := h
    rw [hkey] at hj
    subst hj
    rw [net_transferJournal, transferred, captureDebit, refundCredit]
    simp only [transferJournal, JournalKey.paymentId, if_true]
    rw [← transferJournal, total_transferJournal]
    split_ifs <;> ring

lemma Db.moved_eq (db : Db) (p : PaymentId) : db.moved p =
    ((db.ledgerJournals.rows : Multiset LedgerJournal).map fun j =>
      (j.captureDebit p : ℤ) - j.refundCredit p).sum := by
  have hcast (f : LedgerJournal → ℕ) : ((db.ledgerJournals.rows.map f).sum : ℤ) =
      ((db.ledgerJournals.rows : Multiset LedgerJournal).map fun j => (f j : ℤ)).sum := by
    rw [Multiset.map_coe, Multiset.sum_coe, Nat.cast_list_sum, List.map_map]
    rfl
  rw [Multiset.sum_map_sub, ← hcast, ← hcast]
  rfl

/-- A sum over the journals is a sum over the payments. -/
lemma Db.net_eq {db : Db} (h : ∀ j ∈ db.ledgerJournals.rows, ∃ accounts,
      AgentPay.ledgerAccounts db j.idempotencyKey.paymentId = some accounts ∧ j.Moves accounts)
    (account : LedgerAccountId) :
    db.net account =
      ∑ p ∈ db.paidFrom account, db.moved p - ∑ p ∈ db.clearedOn account, db.moved p := by
  -- how often a payment's customer pays from the account, less how often it is cleared on it
  let side (p : PaymentId) : ℤ := (AgentPay.ledgerAccounts db p).elim 0 fun accounts =>
    (if accounts.customer = account then 1 else 0) - if accounts.clearing = account then 1 else 0
  have hshare : ∀ j ∈ db.ledgerJournals.rows, j.net account =
      ∑ p ∈ Finset.range db.payments.nextId,
        ((j.captureDebit p : ℤ) - j.refundCredit p) * side p := by
    intro j hj
    obtain ⟨accounts, haccounts, hmoves⟩ := h j hj
    obtain ⟨payment, hpayment, -⟩ := Option.bind_eq_some_iff.mp haccounts
    rw [Finset.sum_eq_single_of_mem _ (Finset.mem_range.mpr (Table.get?_lt hpayment)), hmoves.net,
      show side j.idempotencyKey.paymentId = _ from congrArg (Option.elim · 0 _) haccounts]
    · rfl
    · intro p _ hp
      unfold LedgerJournal.captureDebit LedgerJournal.refundCredit
      cases hkey : j.idempotencyKey with
      | capture q | refund q =>
        rw [hkey] at hp
        simp [show q ≠ p from Ne.symm hp]
  have hswap := Multiset.sum_map_sum (m := (db.ledgerJournals.rows : Multiset LedgerJournal))
    (s := Finset.range db.payments.nextId)
    (f := fun j p => ((j.captureDebit p : ℤ) - j.refundCredit p) * side p)
  rw [Multiset.map_coe, Multiset.sum_coe] at hswap
  rw [net, List.map_congr_left hshare, hswap, paidFrom, clearedOn, Finset.sum_filter,
    Finset.sum_filter, ← Finset.sum_sub_distrib]
  refine Finset.sum_congr rfl fun p _ => ?_
  rw [Multiset.sum_map_mul_right, ← moved_eq]
  cases haccounts : AgentPay.ledgerAccounts db p with
  | none => simp [side, haccounts]
  | some accounts =>
    simp only [side, haccounts, Option.elim_some, Option.map_some, Option.some.injEq]
    split_ifs <;> simp

/-! ### Runs -/

/-- A step that leaves the accounts as they are configured, and asks for accounts that the query of
its caller may return; a worker takes up payments whose currency is spelled as it spells it in its
query. -/
def Action.Routed (s : State) : Action → Prop
  | .configure _ => False
  | .mark p accounts =>
    accounts.joins s.db p (normCurrency ·.currency) = true ∧
      (s.db.payments.get? p).all fun payment => normCurrency payment.currency = payment.currency
  | .capture p _ _ accounts _ | .refund p _ _ accounts _ =>
    accounts.joins s.db p (·.currency) = true
  | _ => True

instance (s : State) : (a : Action) → Decidable (a.Routed s)
  | .configure _ => .isFalse id
  | .mark _ _ => inferInstanceAs (Decidable (_ = true ∧ _ = true))
  | .capture p _ _ accounts _ | .refund p _ _ accounts _ =>
    inferInstanceAs (Decidable (accounts.joins s.db p (·.currency) = true))
  | .read _ | .charge _ _ | .finalize _ | .webhook _ _ | .void _ _ _ _ | .settle _
  | .openPayment _ _ | .insertRequest _ _ | .commitPayment _ _ | .abandonPayment _
  | .approve _ _ _ _ | .deny _ _ _ => .isTrue trivial

/-- The accounts a worker takes a payment up with are those of the payment. -/
lemma Db.PaysOnce.mark {db : Db} (h : db.PaysOnce) {p : PaymentId} {accounts : LedgerAccounts}
    (hjoins : accounts.joins db p (normCurrency ·.currency) = true)
    (hplain : (db.payments.get? p).all fun payment =>
      normCurrency payment.currency = payment.currency) :
    AgentPay.ledgerAccounts db p = some accounts := by
  obtain ⟨payment, request, hpayment, hrequest, hcustomer, hclearing⟩ :=
    LedgerAccounts.joins_iff.mp hjoins
  rw [hpayment, Option.all_some, decide_eq_true_eq] at hplain
  rw [hplain] at hclearing
  exact h.accountsIn (LedgerAccounts.joins_iff.mpr
    ⟨payment, request, hpayment, hrequest, hcustomer, hclearing⟩)

/-- Every journal is between the accounts of its payment, and so will be what the workers post. -/
structure State.Booked (s : State) : Prop where
  once : s.db.PaysOnce
  journals : ∀ j ∈ s.db.ledgerJournals.rows, ∃ accounts,
    ledgerAccounts s.db j.idempotencyKey.paymentId = some accounts ∧ j.Moves accounts
  claims : ∀ phase ∈ s.workers, ∀ c ∈ phase.claim?,
    ledgerAccounts s.db c.paymentId = some c.accounts

lemma State.Booked.uses {s : State} (h : s.Booked) {a : Action} (ha : a.Routed s) {p : PaymentId}
    {accounts : LedgerAccounts} (huses : a.Uses s p accounts) :
    ledgerAccounts s.db p = some accounts := by
  cases a with
  | finalize w =>
    obtain ⟨c, answer, hw, rfl, rfl⟩ := huses
    exact h.claims _ (List.mem_of_getElem? hw) c rfl
  | webhook => exact huses
  | capture | refund =>
    obtain ⟨rfl, rfl⟩ := huses
    exact h.once.accountsIn ha
  | _ => exact huses.elim

lemma State.Booked.step {env : Env} {s : State} (h : s.Booked) {a : Action} (ha : a.Routed s) :
    (s.step env a).Booked := by
  have hkept : ∀ c, a ≠ .configure c := by
    rintro c rfl
    exact ha
  have hposts := step_posts env s hkept
  constructor
  · unfold Db.PaysOnce LedgerAccount.paysFor
    rw [hposts.wallets, hposts.ledgerAccounts]
    exact h.once
  · intro j hj
    obtain ⟨js, hjs, hmoves⟩ := hposts.journals
    rw [hjs] at hj
    rcases List.mem_append.mp hj with hj | hj
    · obtain ⟨accounts, haccounts, hj⟩ := h.journals j hj
      exact ⟨accounts, step_ledgerAccounts hkept haccounts, hj⟩
    · obtain ⟨accounts, huses, hj⟩ := hmoves j hj
      exact ⟨accounts, step_ledgerAccounts hkept (h.uses ha huses), hj⟩
  · intro phase hphase c hc
    rcases step_accounts a hphase hc with ⟨phase', hphase', hc'⟩ | rfl
    · exact step_ledgerAccounts hkept (h.claims phase' hphase' c hc')
    · exact step_ledgerAccounts hkept (h.once.mark ha.1 ha.2)

/-- A payment that does not exist has no transactions. -/
lemma Db.Sound.transactionView {db : Db} (h : db.Sound) {p : PaymentId} (hp : view db p = none) :
    AgentPay.transactionView db p = .empty := by
  have hlt : db.payments.nextId ≤ p := by
    by_contra hlt
    obtain ⟨v, hv⟩ := h.view_some (List.getElem?_eq_getElem (not_le.mp hlt))
    rw [hp] at hv
    cases hv
  exact (h.unbooked hlt).2.1

/-- No more is refunded than is captured, whatever the machine does. -/
lemma PaymentStep.refunded_le {op : PaymentOp} {v v' : PaymentView} (h : PaymentStep op v v')
    (hv : v.transactions.refunded ≤ v.transactions.captured) :
    v'.transactions.refunded ≤ v'.transactions.captured := by
  have hcaptured (path : CapturePath) :
      (v.transactions.postCapture path v.amount).refunded ≤
        (v.transactions.postCapture path v.amount).captured := by
    unfold TransactionView.postCapture
    split_ifs
    · exact hv
    · exact hv.trans (Nat.le_add_right _ _)
  cases h with
  | finalizeSucceeded => exact hcaptured .direct
  | eventSucceeded => exact hcaptured .event
  | captureSucceeded => exact hcaptured .direct
  | @refundSucceeded _ k raw amount h =>
    have hwithin : k.1.units ≤ ((v.transactions.captured - v.transactions.refunded : ℤ) : ℚ) := by
      exact_mod_cast h.within
    have hstored : (amount.units : ℤ) = roundUnits k.1.units := Amount.store_eq_ok.mp h.amount
    have hle := roundUnits_le hwithin
    simp only [PaymentView.postRefund, PaymentView.putRefund, TransactionView.putRefund, if_true]
    omega
  | _ => exact hv

/-- While the accounts are as configured, and `LIMIT 1` has no choice among the rows of the join,
what stands on a ledger account is what has been moved from it for the payments of its customer,
less what has been moved onto it for the payments that it clears; and where no payment is captured
under both keys, what a payment has moved is what the transactions have captured of it and not
refunded. -/
theorem run_balances (env : Env) {db : Db} (hdb : db.Blank) (honce : db.PaysOnce)
    {as : List Action}
    (hrouted : Machine.Along (State.step env) (fun s a => a.Routed s) (.start db) as)
    (account : LedgerAccountId) :
    let s := Machine.run (State.step env) (.start db) as
    s.db.net account =
        ∑ p ∈ s.db.paidFrom account, s.db.moved p - ∑ p ∈ s.db.clearedOn account, s.db.moved p ∧
      (Machine.Along (State.step env) (fun s a => a.Meets env PaymentOp.KeepsKey s) (.start db) as →
        ∀ p, s.db.moved p = PaymentLifecycle.postedSum s.db p .capture -
            PaymentLifecycle.postedSum s.db p .refund ∧ 0 ≤ s.db.moved p) := by
  intro s
  have hbooked : s.Booked := by
    refine hrouted.invariant (fun s a hs ha => hs.step ha) ⟨honce, fun j hj => ?_, nofun⟩
    rw [show (State.start db).db.ledgerJournals.rows = [] from hdb.ledgerJournals] at hj
    cases hj
  refine ⟨Db.net_eq hbooked.journals account, fun hkeys p => ?_⟩
  have hviews := State.run_views
    (J := fun v => v.Balanced ∧ v.transactions.refunded ≤ v.transactions.captured)
    (fun v hv => ⟨.empty hv.transactions hv.journals, by rw [hv.transactions]; exact le_rfl⟩)
    (fun op v v' _ hv hkey hstep => ⟨hstep.balanced hv.1 hkey, hstep.refunded_le hv.2⟩)
    ⟨hdb.invariant, fun p v hv => ⟨.empty (hdb.view hv).transactions (hdb.view hv).journals, by
      rw [(hdb.view hv).transactions]; exact le_rfl⟩⟩ hkeys
  have hagrees : LedgerAgrees s.db p ∧ PaymentLifecycle.postedSum s.db p .refund ≤
      PaymentLifecycle.postedSum s.db p .capture := by
    cases hv : view s.db p with
    | none =>
      have hrefunded := congrArg TransactionView.refunded (hviews.1.sound.transactionView hv)
      exact ⟨hviews.1.sound.ledgerAgrees hv, hrefunded.trans_le (Nat.zero_le _)⟩
    | some v =>
      obtain ⟨hbalanced, hle⟩ := hviews.2 p v hv
      refine ⟨hbalanced.agrees hv, ?_⟩
      rw [(view_tables hv).2.2.1] at hle
      exact hle
  obtain ⟨⟨-, -, hdebited, hcredited⟩, hle⟩ := hagrees
  have hmoved : s.db.moved p = PaymentLifecycle.postedSum s.db p .capture -
      PaymentLifecycle.postedSum s.db p .refund := by
    rw [Db.moved, hdebited, hcredited, ← sum_captureDebit, ← sum_refundCredit]
    rfl
  refine ⟨hmoved, ?_⟩
  rw [hmoved]
  omega

/-- 25 are captured, by one of two workers, and 10 are refunded. -/
theorem run_balances_refund :
    let as : List Action := [.mark 0 ⟨0, 1⟩, .mark 0 ⟨0, 1⟩, .read 0,
      .charge 0 ⟨.succeeded, some "ref"⟩, .finalize 0, .read 1, .finalize 1,
      .refund 0 ⟨10, 0⟩ "USD" ⟨0, 1⟩ .succeeded]
    let s := Machine.run (State.step .bare) (.start (.seeded .processing (some .reserved))) as
    s.db.net 0 = ∑ p ∈ s.db.paidFrom 0, s.db.moved p - ∑ p ∈ s.db.clearedOn 0, s.db.moved p ∧
      (s.db.moved 0 = PaymentLifecycle.postedSum s.db 0 .capture -
        PaymentLifecycle.postedSum s.db 0 .refund ∧ 0 ≤ s.db.moved 0) ∧
      s.db.net 0 = 150000 ∧ s.db.net 1 = -150000 := by
  intro as s
  have hrouted : Machine.Along (State.step .bare) (fun s a => a.Routed s)
      (.start (.seeded .processing (some .reserved))) as := by decide +kernel
  have honce : (Db.seeded .processing (some .reserved)).PaysOnce :=
    .cons (fun b hb accountId currency _ => by
      obtain rfl := List.mem_singleton.mp hb
      rfl) (List.pairwise_singleton ..)
  obtain ⟨hnet, hmoved⟩ := run_balances .bare (Db.seeded_blank _ _) honce hrouted 0
  exact ⟨hnet, hmoved (by decide +kernel) 0, by decide +kernel, by decide +kernel⟩

end AgentPay
