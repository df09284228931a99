import Mathlib.Data.List.TakeWhile
import AgentPay.LateOutcome

/-!
# The first definitive outcome

`finalize` called over and over for one payment and its reservation, with any outcomes and any
arguments. The first call that binds to the payment and is definitive decides it; the calls after it
find the decision or are refused.
-/

namespace AgentPay

open Support

/-- The arguments of a call of `finalize` for a given payment and reservation. -/
structure Finalization where
  requestId : RequestId
  amount : Decimal
  currency : String
  accounts : LedgerAccounts
  outcome : ProviderOutcome
  reference : Option String
  deriving DecidableEq, Repr

namespace Finalization

def run (p : PaymentId) (r : ReservationId) (db : Db) (c : Finalization) :
    Except Error (PaymentStatus × Db) :=
  PaymentOrchestrator.finalize db p c.requestId r c.amount c.currency c.accounts c.outcome
    c.reference

/-- A call in a unit of work of its own. -/
def step (p : PaymentId) (r : ReservationId) (db : Db) (c : Finalization) : Db :=
  db.commit ((c.run p r db).map (·.2))

/-- The call is about the payment's request, amount and currency. -/
structure Binds (payment : Payment) (c : Finalization) : Prop where
  request : payment.paymentRequestId = c.requestId
  amount : payment.amount.toDecimal.units = c.amount.units
  currency : normCurrency payment.currency = upper c.currency

instance (payment : Payment) (c : Finalization) : Decidable (c.Binds payment) :=
  decidable_of_iff (payment.paymentRequestId = c.requestId ∧
      payment.amount.toDecimal.units = c.amount.units ∧
      normCurrency payment.currency = upper c.currency)
    ⟨fun h => ⟨h.1, h.2.1, h.2.2⟩, fun h => ⟨h.1, h.2, h.3⟩⟩

/-- A call that decides the payment while it is open. A capture is posted between accounts that
exist. -/
def Definitive (db : Db) (payment : Payment) (c : Finalization) : Prop :=
  c.Binds payment ∧ (c.outcome = .failed ∨ c.outcome = .succeeded ∧ c.accounts.Known db)

instance (db : Db) (payment : Payment) : DecidablePred (Definitive db payment) :=
  fun _ => inferInstanceAs (Decidable (_ ∧ (_ ∨ _ ∧ _)))

/-- A call that says that the outcome is not known. -/
def Doubts (payment : Payment) (c : Finalization) : Prop :=
  c.Binds payment ∧ c.outcome = .unknown

instance (payment : Payment) : DecidablePred (Doubts payment) :=
  fun _ => inferInstanceAs (Decidable (_ ∧ _))

/-- The call raises, and its unit of work leaves the database as it was. -/
def Refused (p : PaymentId) (r : ReservationId) (db : Db) (c : Finalization) : Prop :=
  (∃ e, c.run p r db = .error e) ∧ c.step p r db = db

lemma Refused.of_error {p : PaymentId} {r : ReservationId} {db : Db} {c : Finalization} {e : Error}
    (h : c.run p r db = .error e) : c.Refused p r db :=
  ⟨⟨e, h⟩, by simp [step, h, Except.map]⟩

lemma Binds.congr {payment payment' : Payment} {c : Finalization}
    (hrequest : payment'.paymentRequestId = payment.paymentRequestId)
    (hamount : payment'.amount = payment.amount)
    (hcurrency : payment'.currency = payment.currency) :
    c.Binds payment' ↔ c.Binds payment :=
  ⟨fun h => ⟨hrequest ▸ h.1, hamount ▸ h.2, hcurrency ▸ h.3⟩,
    fun h => ⟨hrequest ▸ h.1, hamount ▸ h.2, hcurrency ▸ h.3⟩⟩

/-! ### One call -/

section Run

variable {p : PaymentId} {r : ReservationId} {db : Db} {payment : Payment} {c : Finalization}
  (hp : db.payments.get? p = some payment)

include hp

lemma run_unbound (h : ¬ c.Binds payment) : c.Refused p r db := by
  by_cases hrequest : payment.paymentRequestId = c.requestId
  · have hother : payment.amount.toDecimal.units ≠ c.amount.units ∨
        normCurrency payment.currency ≠ upper c.currency := by
      by_contra hne
      push Not at hne
      exact h ⟨hrequest, hne.1, hne.2⟩
    refine .of_error (e := .valueError "finalization amount/currency does not match payment") ?_
    simp only [run, PaymentOrchestrator.finalize, hp, hrequest, ne_eq, not_true, if_false]
    rw [if_pos hother]
  · refine .of_error (e := .valueError "payment and payment request binding is invalid") ?_
    simp only [run, PaymentOrchestrator.finalize, hp, ne_eq, hrequest, not_false_eq_true, if_true]

/-- A decided payment answers the outcome that decided it and refuses the others. -/
lemma run_decided {decision : ProviderOutcome} (hdecision : decision ≠ .unknown)
    (hstatus : payment.status = decision.paymentStatus) (h : c.Binds payment) :
    (c.outcome = decision → c.run p r db = .ok (decision.paymentStatus, db)) ∧
      (c.outcome ≠ decision → c.Refused p r db) := by
  have hsame : ¬ (payment.amount.toDecimal.units ≠ c.amount.units ∨
      normCurrency payment.currency ≠ upper c.currency) := by
    simp [h.amount, h.currency]
  have hclosed : ¬ payment.status.Executable := by
    rw [hstatus]
    cases decision <;> first | exact absurd rfl hdecision | decide
  refine ⟨fun houtcome => ?_, fun houtcome => ?_⟩
  · simp only [run, PaymentOrchestrator.finalize, hp, h.request, ne_eq, not_true, if_false,
      houtcome]
    rw [if_neg hsame]
    cases decision with
    | unknown => exact absurd rfl hdecision
    | succeeded => exact if_pos ⟨hstatus, rfl⟩
    | failed => exact (if_neg (by simp)).trans (if_pos ⟨hstatus, rfl⟩)
  · have hother : ∀ o : ProviderOutcome, ¬ (payment.status = o.paymentStatus ∧ c.outcome = o) := by
      rintro o ⟨ho, rfl⟩
      refine houtcome ?_
      cases decision <;> cases houtcome' : c.outcome <;> simp_all [ProviderOutcome.paymentStatus]
    refine .of_error (e := .valueError "payment is not in an executable finalization state") ?_
    simp only [run, PaymentOrchestrator.finalize, hp, h.request, ne_eq, not_true, if_false]
    rw [if_neg hsame, if_neg, if_neg, if_neg, if_pos hclosed]
    · exact hother .unknown
    · exact hother .failed
    · exact hother .succeeded

/-- An open payment runs the branch of the outcome. -/
lemma run_failed (hopen : payment.status.Executable) (h : c.Binds payment)
    (houtcome : c.outcome = .failed) : c.run p r db =
      (PaymentOrchestrator.finalizeFailed db p r c.reference).map fun db' => (.failed, db') := by
  simp only [run, PaymentOrchestrator.finalize, hp, h.request, ne_eq, not_true, if_false, houtcome]
  rw [if_neg (not_or.mpr ⟨not_not.mpr h.amount, not_not.mpr h.currency⟩), if_neg, if_neg, if_neg,
    if_neg (not_not.mpr hopen)]
  · cases PaymentOrchestrator.finalizeFailed db p r c.reference <;> rfl
  · exact fun hunknown => by cases hunknown.2
  · rintro ⟨hfailed, -⟩
    rw [hfailed] at hopen
    exact absurd hopen (by decide)
  · exact fun hsucceeded => by cases hsucceeded.2

lemma run_succeeded (hopen : payment.status.Executable) (h : c.Binds payment)
    (houtcome : c.outcome = .succeeded) : c.run p r db =
      (PaymentOrchestrator.finalizeSucceeded db p r c.amount c.currency c.accounts
        c.reference).map fun db' => (.succeeded, db') := by
  simp only [run, PaymentOrchestrator.finalize, hp, h.request, ne_eq, not_true, if_false, houtcome]
  rw [if_neg (not_or.mpr ⟨not_not.mpr h.amount, not_not.mpr h.currency⟩), if_neg, if_neg, if_neg,
    if_neg (not_not.mpr hopen)]
  · cases PaymentOrchestrator.finalizeSucceeded db p r c.amount c.currency c.accounts
      c.reference <;> rfl
  · exact fun hunknown => by cases hunknown.2
  · exact fun hfailed => by cases hfailed.2
  · rintro ⟨hsucceeded, -⟩
    rw [hsucceeded] at hopen
    exact absurd hopen (by decide)

lemma run_unknown (hopen : payment.status.Executable) (h : c.Binds payment)
    (houtcome : c.outcome = .unknown) : c.run p r db = .ok (.unknownExternalOutcome,
      if payment.status = .unknownExternalOutcome then db
      else PaymentOrchestrator.finalizeUnknown db p r c.reference) := by
  simp only [run, PaymentOrchestrator.finalize, hp, h.request, ne_eq, not_true, if_false, houtcome]
  rw [if_neg (not_or.mpr ⟨not_not.mpr h.amount, not_not.mpr h.currency⟩), if_neg, if_neg]
  · by_cases hunknown : payment.status = .unknownExternalOutcome
    · simp [hunknown]
    · simp [hunknown, hopen]
  · exact fun hfailed => by cases hfailed.2
  · exact fun hsucceeded => by cases hsucceeded.2

end Run

/-! ### The branches -/

/-- The reservation, the transactions and the journals of the payment as they are before a
decision, and as the two decisions leave them. -/
structure Held (p : PaymentId) (r : ReservationId) (db : Db) : Prop where
  reservation : (db.budgetReservations.get? r).map (·.status) = some .reserved
  transactions : db.transactionsOf p = []
  journals : db.journalsOf p = []

structure Released (p : PaymentId) (r : ReservationId) (db : Db) : Prop where
  reservation : (db.budgetReservations.get? r).map (·.status) = some .released
  transactions : db.transactionsOf p = []
  journals : db.journalsOf p = []

structure Captured (p : PaymentId) (r : ReservationId) (amount : Amount) (db : Db) : Prop where
  reservation : (db.budgetReservations.get? r).map (·.status) = some .consumed
  transactions : ∃ t, db.transactionsOf p = [t] ∧ t.type = .capture ∧ t.status = .posted ∧
    t.amount = amount
  journals : ∃ j, db.journalsOf p = [j] ∧ j.idempotencyKey = .capture p

lemma get?_setReservationStatus (db : Db) (r : ReservationId) (status : ReservationStatus) :
    (((BudgetRepository.setReservationStatus db r status).budgetReservations.get? r).map
      (·.status)) = (db.budgetReservations.get? r).map fun _ => status := by
  simp only [BudgetRepository.setReservationStatus, Table.get?_update_self, Option.map_map]
  rfl

/-- What the branches start from: the payment is held, its budget counts the reservation, and the
key of its capture is free. -/
structure Open (p : PaymentId) (r : ReservationId) (db : Db) : Prop extends Held p r db where
  agree : db.BudgetsAgree
  free : db.transactions.idOf? (.capture p) = none

lemma Held.journal_free {p : PaymentId} {r : ReservationId} {db : Db} (h : Held p r db) :
    db.ledgerJournals.idOf? (.capture p) = none := by
  refine Table.idOf?_eq_none.mpr fun j hj hkey => ?_
  have hmem : j ∈ db.journalsOf p := by
    refine List.mem_filter.mpr ⟨hj, decide_eq_true ?_⟩
    rw [show j.idempotencyKey = .capture p from Option.some.inj hkey]
    rfl
  rw [h.journals] at hmem
  cases hmem

lemma Open.settles {p : PaymentId} {r : ReservationId} {db : Db} (h : Open p r db)
    (call : SettleCall) : ∃ budgets, BudgetRepository.settle db r call.status call.budget =
      .ok { BudgetRepository.setReservationStatus db r call.status with budgets } := by
  obtain ⟨row, hrow, hreserved⟩ := Option.map_eq_some_iff.mp h.reservation
  refine settle_of_reserved db call.status call.budget hrow hreserved fun b hb => ?_
  have hle := h.agree.counts hrow hreserved hb
  cases call
  · exact ⟨_, if_pos hle⟩
  · exact ⟨_, if_pos hle⟩

/-- What a branch does to the rows of the payment and to the outbox. -/
structure Branches (p : PaymentId) (status : PaymentStatus) (reference : Option String)
    (event : OutboxEvent) (db db' : Db) : Prop where
  row : db'.payments.get? p =
    (db.payments.get? p).map (PaymentRepository.withStatus status reference)
  accounts : db'.ledgerAccounts = db.ledgerAccounts
  events : db'.outboxEvents = db.outboxEvents ++ [event]

lemma finalizeUnknown_branches (db : Db) (p : PaymentId) (r : ReservationId)
    (reference : Option String) :
    Branches p .unknownExternalOutcome reference (.paymentOutcomeUnknown p r) db
      (PaymentOrchestrator.finalizeUnknown db p r reference) :=
  ⟨get?_updateStatus _ p .unknownExternalOutcome reference, rfl, rfl⟩

lemma finalizeFailed_branches {p : PaymentId} {r : ReservationId} {db : Db} (h : Open p r db)
    (reference : Option String) :
    ∃ db', PaymentOrchestrator.finalizeFailed db p r reference = .ok db' ∧ Released p r db' ∧
      Branches p .failed reference (.paymentFailed p (.provider r)) db db' := by
  set db₁ := PaymentOrchestrator.updateCharges db p
    (PaymentOrchestrator.decided .failed reference) fun _ => rfl with hdb₁
  have h₁ : Open p r db₁ := ⟨⟨h.1.1, h.1.2, h.1.3⟩, h.agree.congr rfl rfl, h.free⟩
  obtain ⟨budgets, hrelease⟩ := h₁.settles .release
  refine ⟨_, Except.bind_eq_ok.mpr ⟨_, hrelease, rfl⟩, ⟨?_, h.transactions, h.journals⟩,
    get?_updateStatus _ p .failed reference, rfl, rfl⟩
  refine (get?_setReservationStatus db r .released).trans ?_
  obtain ⟨row, hrow, -⟩ := Option.map_eq_some_iff.mp h.reservation
  rw [hrow]
  rfl

/-- The capture row that `finalize` inserts. -/
def captureRow (p : PaymentId) (amount : Amount) (currency : String) : Transaction where
  paymentId := p
  type := .capture
  status := .posted
  amount := amount
  currency := currency
  externalReference := none
  idempotencyKey := .capture p

/-- It goes in under its free key. -/
lemma upsertCapture_appends {p : PaymentId} {db : Db}
    (hfree : db.transactions.idOf? (.capture p) = none) {amount : Decimal} {stored : Amount}
    (hstore : Amount.store amount = .ok stored) (currency : String) :
    ∃ transactions, PaymentOrchestrator.upsertCapture db p amount currency =
        .ok (db.transactions.nextId, { db with transactions }) ∧
      transactions.rows = db.transactions.rows ++ [captureRow p stored currency] := by
  obtain ⟨transactions, hinsert, hrows⟩ := Table.insert?_of_idOf?_none (t := db.transactions)
    (k := .capture p) (r := captureRow p stored currency) rfl hfree
  refine ⟨transactions, ?_, hrows⟩
  rw [captureRow] at hinsert
  simp only [PaymentOrchestrator.upsertCapture, hstore, bind, Except.bind, hinsert]
  rfl

lemma decided_key (status : OperationStatus) (reference : Option String) (o : ProviderOperation) :
    (PaymentOrchestrator.decided status reference o).key = o.key := rfl

/-- The database the journal of a capture is posted in. -/
def beforeJournal (db : Db) (p : PaymentId) (r : ReservationId) (reference : Option String)
    (budgets : List Budget) (transactions : Table Transaction Transaction.key) : Db :=
  { BudgetRepository.setReservationStatus
      (PaymentOrchestrator.updateCharges db p (PaymentOrchestrator.decided .succeeded reference)
        (decided_key .succeeded reference)) r .consumed with budgets, transactions }

/-- Up to its journal a capture goes through. -/
lemma finalizeSucceeded_eq {p : PaymentId} {r : ReservationId} {db : Db} (h : Open p r db)
    {stored : Amount} {amount : Decimal} (hstore : Amount.store amount = .ok stored)
    (currency : String) (accounts : LedgerAccounts) (reference : Option String) :
    ∃ budgets transactions,
      transactions.rows = db.transactions.rows ++ [captureRow p stored currency] ∧
      PaymentOrchestrator.finalizeSucceeded db p r amount currency accounts reference =
        (postJournal (beforeJournal db p r reference budgets transactions) currency
          (.transaction db.transactions.nextId) (.capture p)
          (transfer accounts.customer accounts.clearing amount currency)).map fun x =>
            enqueue (PaymentRepository.updateStatus x.2 p .succeeded reference)
              (.paymentSucceeded p amount currency) := by
  set db₁ := PaymentOrchestrator.updateCharges db p
    (PaymentOrchestrator.decided .succeeded reference) fun _ => rfl with hdb₁
  have h₁ : Open p r db₁ := ⟨⟨h.1.1, h.1.2, h.1.3⟩, h.agree.congr rfl rfl, h.free⟩
  obtain ⟨budgets, hconsume⟩ := h₁.settles .consume
  have hconsume' : BudgetRepository.consume db₁ r =
      .ok { BudgetRepository.setReservationStatus db₁ r .consumed with budgets } := hconsume
  set db₂ : Db := { BudgetRepository.setReservationStatus db₁ r .consumed with budgets } with hdb₂
  have hfree : db₂.transactions.idOf? (.capture p) = none := h.free
  obtain ⟨transactions, hupsert, htransactions⟩ := upsertCapture_appends hfree hstore currency
  refine ⟨budgets, transactions, htransactions, ?_⟩
  have hmap : ∀ (f : ℕ × Db → Db) (x : Except Error (ℕ × Db)),
      (x >>= fun y => pure (f y)) = x.map f := by
    rintro f (e | y) <;> rfl
  rw [PaymentOrchestrator.finalizeSucceeded, ← hdb₁]
  simp only [hconsume', hupsert, bind, Except.bind]
  exact hmap (fun x => enqueue (PaymentRepository.updateStatus x.2 p .succeeded reference)
    (.paymentSucceeded p amount currency)) _

lemma finalizeSucceeded_branches {p : PaymentId} {r : ReservationId} {db : Db} (h : Open p r db)
    {stored : Amount} {amount : Decimal} (hstore : Amount.store amount = .ok stored)
    (hpos : 0 < amount.units) (currency : String) {accounts : LedgerAccounts}
    (hknown : accounts.Known db) (reference : Option String) :
    ∃ db', PaymentOrchestrator.finalizeSucceeded db p r amount currency accounts reference =
        .ok db' ∧ Captured p r stored db' ∧
      Branches p .succeeded reference (.paymentSucceeded p amount currency) db db' := by
  obtain ⟨budgets, transactions, htransactions, hrun⟩ :=
    finalizeSucceeded_eq h hstore currency accounts reference
  set db₃ := beforeJournal db p r reference budgets transactions with hdb₃
  have hkey : db₃.ledgerJournals.idOf? (.capture p) = none := h.journal_free
  obtain ⟨journals, hinsert, hjournals⟩ := Table.insert?_of_idOf?_none (t := db₃.ledgerJournals)
    (k := .capture p) (r := transferJournal accounts.customer accounts.clearing stored currency
      (.transaction db.transactions.nextId) (.capture p)) rfl hkey
  have hpost : postJournal db₃ currency (.transaction db.transactions.nextId) (.capture p)
      (transfer accounts.customer accounts.clearing amount currency) =
      .ok (db₃.ledgerJournals.nextId, { db₃ with ledgerJournals := journals }) :=
    postJournal_transfer_eq_ok.mpr ⟨hpos, .inr ⟨hkey, rfl, hknown.1, hknown.2, stored, journals,
      hstore, hinsert, rfl⟩⟩
  rw [hpost] at hrun
  refine ⟨_, hrun, ⟨?_, ?_, ?_⟩, get?_updateStatus _ p .succeeded reference, rfl, rfl⟩
  · refine (get?_setReservationStatus db r .consumed).trans ?_
    obtain ⟨row, hrow, -⟩ := Option.map_eq_some_iff.mp h.reservation
    rw [hrow]
    rfl
  · have hnone := h.transactions
    simp only [Db.transactionsOf] at hnone
    refine ⟨captureRow p stored currency, ?_, rfl, rfl, rfl⟩
    show transactions.rows.filter _ = _
    rw [htransactions, List.filter_append]
    refine (congrArg (· ++ _) hnone).trans ?_
    simp [captureRow]
  · have hnone := h.journals
    simp only [Db.journalsOf] at hnone
    refine ⟨transferJournal accounts.customer accounts.clearing stored currency
      (.transaction db.transactions.nextId) (.capture p), ?_, rfl⟩
    show journals.rows.filter _ = _
    rw [hjournals, List.filter_append]
    refine (congrArg (· ++ _) hnone).trans ?_
    simp [transferJournal, JournalKey.paymentId]

/-- The postings of a capture reference their accounts. -/
lemma finalizeSucceeded_known {p : PaymentId} {r : ReservationId} {db db' : Db} (h : Open p r db)
    {stored : Amount} {amount : Decimal} (hstore : Amount.store amount = .ok stored)
    {currency : String} {accounts : LedgerAccounts} {reference : Option String}
    (hrun : PaymentOrchestrator.finalizeSucceeded db p r amount currency accounts reference =
      .ok db') : accounts.Known db := by
  obtain ⟨budgets, transactions, -, heq⟩ :=
    finalizeSucceeded_eq h hstore currency accounts reference
  rw [heq] at hrun
  cases hpost : postJournal (beforeJournal db p r reference budgets transactions) currency
    (.transaction db.transactions.nextId) (.capture p)
    (transfer accounts.customer accounts.clearing amount currency) with
  | error e =>
    rw [hpost] at hrun
    cases hrun
  | ok x =>
    obtain ⟨-, ⟨hkey, -⟩ | ⟨-, -, hcustomer, hclearing, -⟩⟩ := postJournal_transfer_eq_ok.mp hpost
    · cases h.journal_free.symm.trans hkey
    · exact ⟨hcustomer, hclearing⟩

/-! ### Runs -/

/-- A payment in PROCESSING with its reservation held and nothing captured. -/
structure Undecided (p : PaymentId) (r : ReservationId) (payment : Payment) (db : Db) : Prop
    extends Held p r db where
  sound : db.Sound
  agree : db.BudgetsAgree
  row : db.payments.get? p = some payment
  processing : payment.status = .processing

lemma Undecided.open {p : PaymentId} {r : ReservationId} {payment : Payment} {db : Db}
    (h : Undecided p r payment db) : Open p r db := by
  refine ⟨h.toHeld, h.agree, Table.idOf?_eq_none.mpr fun t ht hkey => ?_⟩
  have hfiled := (h.sound.transaction t ht).1.payment
  rw [show t.idempotencyKey = .capture p from Option.some.inj hkey] at hfiled
  have hmem : t ∈ db.transactionsOf p := List.mem_filter.mpr ⟨ht, decide_eq_true hfiled⟩
  rw [h.transactions] at hmem
  cases hmem

/-- The call that decides the payment. -/
def firstDefinitive (db : Db) (payment : Payment) (cs : List Finalization) : Option Finalization :=
  cs.find? fun c => decide (c.Definitive db payment)

/-- A call before it put the outcome in doubt. -/
def doubted (db : Db) (payment : Payment) (cs : List Finalization) : Bool :=
  (cs.takeWhile fun c => decide (¬ c.Definitive db payment)).any fun c => decide (c.Doubts payment)

section Concat

variable {db : Db} {payment : Payment} {cs : List Finalization} {c : Finalization}

lemma Definitive.of_some {d : Finalization} (h : firstDefinitive db payment cs = some d) :
    d.Definitive db payment := by
  simp only [firstDefinitive] at h
  exact of_decide_eq_true (List.find?_some (p := fun c => decide (Definitive db payment c)) h)

lemma firstDefinitive_concat_of_some {d : Finalization}
    (h : firstDefinitive db payment cs = some d) (c : Finalization) :
    firstDefinitive db payment (cs ++ [c]) = some d := by
  simp only [firstDefinitive] at h
  simp only [firstDefinitive, List.find?_append, h, Option.some_or]

lemma firstDefinitive_concat_of_none (h : firstDefinitive db payment cs = none) :
    firstDefinitive db payment (cs ++ [c]) =
      if c.Definitive db payment then some c else none := by
  simp only [firstDefinitive] at h
  by_cases hc : c.Definitive db payment
  · simp [firstDefinitive, List.find?_append, h, hc]
  · simp [firstDefinitive, List.find?_append, h, hc]

lemma doubted_concat_of_some {d : Finalization} (h : firstDefinitive db payment cs = some d)
    (c : Finalization) : doubted db payment (cs ++ [c]) = doubted db payment cs := by
  simp only [doubted]
  rw [List.takeWhile_append, if_neg]
  intro hlength
  have hall := List.takeWhile_eq_self_iff.mp ((List.takeWhile_prefix _).eq_of_length hlength)
  exact of_decide_eq_true (hall d (List.mem_of_find?_eq_some h)) (Definitive.of_some h)

lemma doubted_concat_of_none (h : firstDefinitive db payment cs = none) :
    doubted db payment (cs ++ [c]) = (doubted db payment cs || decide (c.Doubts payment)) := by
  have hall : ∀ x ∈ cs, decide (¬ x.Definitive db payment) = true := by
    intro x hx
    exact decide_eq_true fun hd => List.find?_eq_none.mp h x hx (decide_eq_true hd)
  have hdoubts : c.Doubts payment → ¬ c.Definitive db payment := by
    rintro ⟨-, houtcome⟩ ⟨-, hfailed | ⟨hsucceeded, -⟩⟩
    · cases houtcome.symm.trans hfailed
    · cases houtcome.symm.trans hsucceeded
  simp only [doubted]
  rw [List.takeWhile_append_of_pos hall, List.takeWhile_eq_self_iff.mpr hall, List.any_append]
  by_cases hd : c.Definitive db payment
  · have hnot : ¬ c.Doubts payment := fun h => hdoubts h hd
    simp [hd, hnot]
  · simp [hd]

end Concat

/-- What an outcome leaves of the payment's rows; a payment without a definitive one is held. -/
def Leaves (p : PaymentId) (r : ReservationId) (amount : Amount) : ProviderOutcome → Db → Prop
  | .succeeded => Captured p r amount
  | .failed    => Released p r
  | .unknown   => Held p r

/-- The status, the outcome and the events that a sequence of calls comes to. -/
def status (db : Db) (payment : Payment) (cs : List Finalization) : PaymentStatus :=
  match firstDefinitive db payment cs with
  | some d => d.outcome.paymentStatus
  | none   => if doubted db payment cs then .unknownExternalOutcome else .processing

def verdict (db : Db) (payment : Payment) (cs : List Finalization) : ProviderOutcome :=
  ((firstDefinitive db payment cs).map (·.outcome)).getD .unknown

def announced (p : PaymentId) (r : ReservationId) (db : Db) (payment : Payment)
    (cs : List Finalization) : List OutboxEvent :=
  (if doubted db payment cs then [.paymentOutcomeUnknown p r] else []) ++
    ((firstDefinitive db payment cs).map fun d => d.outcome.event p r d.amount d.currency).toList

/-- The database that a sequence of calls leaves of `db₀`. -/
structure Stands (p : PaymentId) (r : ReservationId) (payment : Payment) (db₀ : Db)
    (cs : List Finalization) (db : Db) : Prop where
  row : ∃ row, db.payments.get? p = some row ∧ row.paymentRequestId = payment.paymentRequestId ∧
    row.amount = payment.amount ∧ row.currency = payment.currency ∧
    row.status = status db₀ payment cs
  leaves : Leaves p r payment.amount (verdict db₀ payment cs) db
  held : firstDefinitive db₀ payment cs = none → Open p r db
  accounts : db.ledgerAccounts = db₀.ledgerAccounts
  events : db.outboxEvents = db₀.outboxEvents ++ announced p r db₀ payment cs

lemma Undecided.stands {p : PaymentId} {r : ReservationId} {payment : Payment} {db : Db}
    (h : Undecided p r payment db) : Stands p r payment db [] db where
  row := ⟨payment, h.row, rfl, rfl, rfl, h.processing⟩
  leaves := h.toHeld
  held _ := h.open
  accounts := rfl
  events := by simp [announced, doubted, firstDefinitive]

lemma Definitive.ne_unknown {db : Db} {payment : Payment} {c : Finalization}
    (h : c.Definitive db payment) : c.outcome ≠ .unknown := by
  intro hunknown
  rcases h.2 with hfailed | ⟨hsucceeded, -⟩
  · cases hunknown.symm.trans hfailed
  · cases hunknown.symm.trans hsucceeded

/-- How a further call is answered. -/
structure Answers (p : PaymentId) (r : ReservationId) (payment : Payment) (db₀ : Db)
    (cs : List Finalization) (db : Db) (c : Finalization) : Prop where
  mismatched : ¬ c.Binds payment → c.Refused p r db
  repeated : ∀ d, firstDefinitive db₀ payment cs = some d → c.Binds payment →
    c.outcome = d.outcome → c.run p r db = .ok (d.outcome.paymentStatus, db)
  contradictory : ∀ d, firstDefinitive db₀ payment cs = some d → c.outcome ≠ d.outcome →
    c.Refused p r db
  deciding : firstDefinitive db₀ payment cs = none → c.Definitive db₀ payment →
    ∃ db', c.run p r db = .ok (c.outcome.paymentStatus, db')
  doubting : firstDefinitive db₀ payment cs = none → c.Doubts payment →
    ∃ db', c.run p r db = .ok (.unknownExternalOutcome, db') ∧
      (doubted db₀ payment cs → db' = db)
  unposted : firstDefinitive db₀ payment cs = none → c.outcome = .succeeded →
    ¬ c.accounts.Known db₀ → c.Refused p r db

section Stands

variable {p : PaymentId} {r : ReservationId} {payment : Payment} {db₀ db db' : Db}
  {cs : List Finalization} {c : Finalization}

/-- A branch keeps what the row binds to. -/
lemma Stands.branches (h : Stands p r payment db₀ cs db) {s : PaymentStatus}
    {reference : Option String} {event : OutboxEvent} (hb : Branches p s reference event db db') :
    ∃ row, db'.payments.get? p = some row ∧ row.paymentRequestId = payment.paymentRequestId ∧
      row.amount = payment.amount ∧ row.currency = payment.currency ∧ row.status = s := by
  obtain ⟨row, hrow, hrequest, hamount, hcurrency, -⟩ := h.row
  refine ⟨PaymentRepository.withStatus s reference row, ?_, hrequest, hamount, hcurrency, rfl⟩
  rw [hb.row, hrow]
  rfl

/-- A payment without a definitive call is open. -/
lemma Stands.executable (h : Stands p r payment db₀ cs db)
    (hnone : firstDefinitive db₀ payment cs = none) :
    ∃ row, db.payments.get? p = some row ∧ (c.Binds row ↔ c.Binds payment) ∧
      row.amount = payment.amount ∧ row.status.Executable ∧
      (row.status = .unknownExternalOutcome ↔ doubted db₀ payment cs = true) := by
  obtain ⟨row, hrow, hrequest, hamount, hcurrency, hstatus⟩ := h.row
  rw [status, hnone] at hstatus
  refine ⟨row, hrow, Binds.congr hrequest hamount hcurrency, hamount, ?_, ?_⟩
  · rw [hstatus]
    cases doubted db₀ payment cs
    · exact .inl rfl
    · exact .inr rfl
  · rw [hstatus]
    cases doubted db₀ payment cs <;> simp

lemma Stands.congr (h : Stands p r payment db₀ cs db) {cs' : List Finalization}
    (hfirst : firstDefinitive db₀ payment cs' = firstDefinitive db₀ payment cs)
    (hdoubted : doubted db₀ payment cs' = doubted db₀ payment cs) :
    Stands p r payment db₀ cs' db where
  row := by simpa only [status, hfirst, hdoubted] using h.row
  leaves := by simpa only [verdict, hfirst] using h.leaves
  held hnone := h.held (hfirst ▸ hnone)
  accounts := h.accounts
  events := by simpa only [announced, hfirst, hdoubted] using h.events

/-- A definitive call of an open payment decides it. -/
lemma Stands.decided (h : Stands p r payment db₀ cs db)
    (hnone : firstDefinitive db₀ payment cs = none) (hc : c.Definitive db₀ payment)
    (hb : Branches p c.outcome.paymentStatus c.reference
      (c.outcome.event p r c.amount c.currency) db db')
    (hleaves : Leaves p r payment.amount c.outcome db') :
    Stands p r payment db₀ (cs ++ [c]) db' := by
  have hfirst : firstDefinitive db₀ payment (cs ++ [c]) = some c := by
    rw [firstDefinitive_concat_of_none hnone, if_pos hc]
  have hdoubted : doubted db₀ payment (cs ++ [c]) = doubted db₀ payment cs := by
    rw [doubted_concat_of_none hnone, decide_eq_false, Bool.or_false]
    exact fun hdoubts => hc.ne_unknown hdoubts.2
  refine ⟨?_, ?_, ?_, hb.accounts.trans h.accounts, ?_⟩
  · simpa only [status, hfirst] using h.branches hb
  · simpa only [verdict, hfirst, Option.map_some, Option.getD_some] using hleaves
  · intro hnone'
    cases hfirst.symm.trans hnone'
  · rw [hb.events, h.events, announced, announced, hnone, hfirst, hdoubted]
    simp

lemma Stands.run_failed (h : Stands p r payment db₀ cs db)
    (hnone : firstDefinitive db₀ payment cs = none) (hbinds : c.Binds payment)
    (houtcome : c.outcome = .failed) :
    ∃ db', c.run p r db = .ok (.failed, db') ∧ Stands p r payment db₀ (cs ++ [c]) db' := by
  obtain ⟨row, hrow, hrow_binds, -, hopen, -⟩ := h.executable (c := c) hnone
  obtain ⟨db', hbranch, hreleased, hb⟩ := finalizeFailed_branches (h.held hnone) c.reference
  refine ⟨db', ?_, h.decided hnone ⟨hbinds, .inl houtcome⟩ ?_ ?_⟩
  · rw [Finalization.run_failed hrow hopen (hrow_binds.mpr hbinds) houtcome, hbranch]
    rfl
  · rwa [houtcome]
  · rwa [houtcome]

lemma Stands.run_succeeded (h : Stands p r payment db₀ cs db)
    (hnone : firstDefinitive db₀ payment cs = none) (hbinds : c.Binds payment)
    (houtcome : c.outcome = .succeeded) (hknown : c.accounts.Known db₀) :
    ∃ db', c.run p r db = .ok (.succeeded, db') ∧ Stands p r payment db₀ (cs ++ [c]) db' := by
  obtain ⟨row, hrow, hrow_binds, hamount, hopen, -⟩ := h.executable (c := c) hnone
  have hunits : c.amount.units = payment.amount.units := by
    rw [← hbinds.amount, Amount.units_toDecimal]
  have hpos : 0 < c.amount.units := by
    rw [hunits]
    exact payment.amount.units_cast_pos
  have hknown' : c.accounts.Known db := by rwa [LedgerAccounts.Known, h.accounts]
  obtain ⟨db', hbranch, hcaptured, hb⟩ := finalizeSucceeded_branches (h.held hnone)
    (Amount.store_of_units hunits) hpos c.currency hknown' c.reference
  refine ⟨db', ?_, h.decided hnone ⟨hbinds, .inr ⟨houtcome, hknown⟩⟩ ?_ ?_⟩
  · rw [Finalization.run_succeeded hrow hopen (hrow_binds.mpr hbinds) houtcome, hbranch]
    rfl
  · rwa [houtcome]
  · rwa [houtcome]

lemma Stands.run_unposted (h : Stands p r payment db₀ cs db)
    (hnone : firstDefinitive db₀ payment cs = none) (houtcome : c.outcome = .succeeded)
    (hunknown : ¬ c.accounts.Known db₀) : c.Refused p r db := by
  obtain ⟨row, hrow, hrow_binds, hamount, hopen, -⟩ := h.executable (c := c) hnone
  by_cases hbinds : c.Binds row
  · have hunits : c.amount.units = row.amount.units := by
      rw [← hbinds.amount, Amount.units_toDecimal]
    have hrun := Finalization.run_succeeded (r := r) hrow hopen hbinds houtcome
    cases hbranch : PaymentOrchestrator.finalizeSucceeded db p r c.amount c.currency c.accounts
      c.reference with
    | error e => exact .of_error (e := e) (by rw [hrun, hbranch]; rfl)
    | ok db' =>
      have hknown := finalizeSucceeded_known (h.held hnone) (Amount.store_of_units hunits) hbranch
      rw [LedgerAccounts.Known, h.accounts] at hknown
      exact absurd hknown hunknown
  · exact run_unbound hrow hbinds

lemma Stands.run_unknown (h : Stands p r payment db₀ cs db)
    (hnone : firstDefinitive db₀ payment cs = none) (hc : c.Doubts payment) :
    ∃ db', c.run p r db = .ok (.unknownExternalOutcome, db') ∧
      (doubted db₀ payment cs → db' = db) ∧ Stands p r payment db₀ (cs ++ [c]) db' := by
  obtain ⟨row, hrow, hrow_binds, -, hopen, hdoubted⟩ := h.executable (c := c) hnone
  have hfirst : firstDefinitive db₀ payment (cs ++ [c]) = none := by
    rw [firstDefinitive_concat_of_none hnone, if_neg]
    exact fun hd => hd.ne_unknown hc.2
  have hdoubted' : doubted db₀ payment (cs ++ [c]) = true := by
    rw [doubted_concat_of_none hnone, decide_eq_true hc, Bool.or_true]
  have hrun := Finalization.run_unknown (r := r) hrow hopen (hrow_binds.mpr hc.1) hc.2
  by_cases hbefore : doubted db₀ payment cs = true
  · rw [if_pos (hdoubted.mpr hbefore)] at hrun
    have hsame : doubted db₀ payment (cs ++ [c]) = doubted db₀ payment cs := by
      rw [hdoubted', hbefore]
    exact ⟨db, hrun, fun _ => rfl, h.congr (hfirst.trans hnone.symm) hsame⟩
  · rw [if_neg fun hunknown => hbefore (hdoubted.mp hunknown)] at hrun
    have hb := finalizeUnknown_branches db p r c.reference
    have hheld := h.held hnone
    have hopen' : Open p r (PaymentOrchestrator.finalizeUnknown db p r c.reference) :=
      ⟨⟨hheld.1.1, hheld.1.2, hheld.1.3⟩, hheld.agree.congr rfl rfl, hheld.free⟩
    refine ⟨_, hrun, fun hd => absurd hd hbefore, ?_, ?_, fun _ => hopen',
      hb.accounts.trans h.accounts, ?_⟩
    · simpa only [status, hfirst, hdoubted', if_true] using h.branches hb
    · rw [verdict, hfirst]
      exact hopen'.toHeld
    · rw [hb.events, h.events, announced, announced, hnone, hfirst, hdoubted', if_neg hbefore]
      simp

lemma Stands.answers (h : Stands p r payment db₀ cs db) (c : Finalization) :
    Answers p r payment db₀ cs db c := by
  obtain ⟨row, hrow, hrequest, hamount, hcurrency, hstatus⟩ := h.row
  have hbinds : c.Binds row ↔ c.Binds payment := Binds.congr hrequest hamount hcurrency
  have hdecided : ∀ d, firstDefinitive db₀ payment cs = some d →
      d.outcome ≠ .unknown ∧ row.status = d.outcome.paymentStatus := by
    intro d hd
    refine ⟨(Definitive.of_some hd).ne_unknown, ?_⟩
    rw [hstatus, status, hd]
  refine ⟨fun hnot => ?_, fun d hd hc houtcome => ?_, fun d hd houtcome => ?_, fun hnone hc => ?_,
    fun hnone hc => ?_, fun hnone houtcome hunknown => h.run_unposted hnone houtcome hunknown⟩
  · exact run_unbound hrow fun hb => hnot (hbinds.mp hb)
  · exact (run_decided hrow (hdecided d hd).1 (hdecided d hd).2 (hbinds.mpr hc)).1 houtcome
  · by_cases hc : c.Binds row
    · exact (run_decided hrow (hdecided d hd).1 (hdecided d hd).2 hc).2 houtcome
    · exact run_unbound hrow hc
  · obtain ⟨hc, houtcome | ⟨houtcome, hknown⟩⟩ := hc
    · obtain ⟨db', hrun, -⟩ := h.run_failed hnone hc houtcome
      exact ⟨db', by rw [hrun, houtcome]; rfl⟩
    · obtain ⟨db', hrun, -⟩ := h.run_succeeded hnone hc houtcome hknown
      exact ⟨db', by rw [hrun, houtcome]; rfl⟩
  · obtain ⟨db', hrun, hsame, -⟩ := h.run_unknown hnone hc
    exact ⟨db', hrun, hsame⟩

/-- A call that neither decides nor doubts. -/
lemma Stands.unmoved (h : Stands p r payment db₀ cs db) (hdecides : ¬ c.Definitive db₀ payment)
    (hdoubts : ¬ c.Doubts payment) : Stands p r payment db₀ (cs ++ [c]) db := by
  cases hfirst : firstDefinitive db₀ payment cs with
  | some d =>
    refine h.congr ?_ (doubted_concat_of_some hfirst c)
    rw [firstDefinitive_concat_of_some hfirst, hfirst]
  | none =>
    refine h.congr ?_ ?_
    · rw [firstDefinitive_concat_of_none hfirst, if_neg hdecides, hfirst]
    · rw [doubted_concat_of_none hfirst, decide_eq_false hdoubts, Bool.or_false]

lemma Stands.next (h : Stands p r payment db₀ cs db) (c : Finalization) :
    Stands p r payment db₀ (cs ++ [c]) (c.step p r db) := by
  have hok : ∀ {status : PaymentStatus} {db' : Db}, c.run p r db = .ok (status, db') →
      c.step p r db = db' := by
    intro status db' hrun
    simp [step, hrun, Except.map]
  by_cases hbinds : c.Binds payment
  · cases hfirst : firstDefinitive db₀ payment cs with
    | some d =>
      -- a decided payment
      have hsame : c.step p r db = db := by
        by_cases houtcome : c.outcome = d.outcome
        · exact hok ((h.answers c).repeated d hfirst hbinds houtcome)
        · exact ((h.answers c).contradictory d hfirst houtcome).2
      rw [hsame]
      refine h.congr ?_ (doubted_concat_of_some hfirst c)
      rw [firstDefinitive_concat_of_some hfirst, hfirst]
    | none =>
      cases houtcome : c.outcome with
      | failed =>
        obtain ⟨db', hrun, hstands⟩ := h.run_failed hfirst hbinds houtcome
        rwa [hok hrun]
      | unknown =>
        obtain ⟨db', hrun, -, hstands⟩ := h.run_unknown hfirst ⟨hbinds, houtcome⟩
        rwa [hok hrun]
      | succeeded =>
        by_cases hknown : c.accounts.Known db₀
        · obtain ⟨db', hrun, hstands⟩ := h.run_succeeded hfirst hbinds houtcome hknown
          rwa [hok hrun]
        · rw [(h.run_unposted hfirst houtcome hknown).2]
          refine h.unmoved ?_ ?_
          · rintro ⟨-, hfailed | ⟨-, hknown'⟩⟩
            · cases houtcome.symm.trans hfailed
            · exact hknown hknown'
          · rintro ⟨-, hunknown⟩
            cases houtcome.symm.trans hunknown
  · rw [((h.answers c).mismatched hbinds).2]
    exact h.unmoved (fun hd => hbinds hd.1) fun hd => hbinds hd.1

lemma Undecided.run_stands (h : Undecided p r payment db) (cs : List Finalization) :
    Stands p r payment db cs (Machine.run (step p r) db cs) := by
  induction cs using List.reverseRecOn with
  | nil => exact h.stands
  | append_singleton cs c ih =>
    rw [Machine.run_concat]
    exact ih.next c

end Stands

/-- The first definitive call decides. Any sequence of calls leaves the status, the tables and the
events that it comes to, and a call after it is answered by it. -/
theorem run_firstDefinitive {p : PaymentId} {r : ReservationId} {payment : Payment} {db : Db}
    (h : Undecided p r payment db) (cs : List Finalization) :
    let after := Machine.run (step p r) db cs
    (after.payments.get? p).map (·.status) = some (status db payment cs) ∧
      Leaves p r payment.amount (verdict db payment cs) after ∧
      after.outboxEvents = db.outboxEvents ++ announced p r db payment cs ∧
      ∀ c : Finalization, Answers p r payment db cs after c := by
  intro after
  have hstands := h.run_stands cs
  obtain ⟨row, hrow, -, -, -, hstatus⟩ := hstands.row
  refine ⟨?_, hstands.leaves, hstands.events, hstands.answers⟩
  rw [hrow, Option.map_some, hstatus]

/-- One call that puts the charge of `State.charging` in doubt, one that fails to bind, one that
captures it and one that comes too late. -/
def samples : List Finalization :=
  [⟨0, ⟨25, 0⟩, "USD", ⟨0, 1⟩, .unknown, none⟩, ⟨0, ⟨24, 0⟩, "USD", ⟨0, 1⟩, .failed, none⟩,
    ⟨0, ⟨250, 1⟩, "usd", ⟨0, 1⟩, .succeeded, some "ch"⟩,
    ⟨0, ⟨25, 0⟩, "USD", ⟨0, 1⟩, .failed, none⟩]

theorem run_firstDefinitive_samples :
    let db := State.charging.db
    let after := Machine.run (step 0 0) db samples
    (after.payments.get? 0).map (·.status) = some .succeeded ∧ Captured 0 0 .seeded after ∧
      after.outboxEvents = db.outboxEvents ++
        [.paymentOutcomeUnknown 0 0, .paymentSucceeded 0 ⟨250, 1⟩ "usd"] := by
  intro db after
  have hs : State.charging.Reachable .bare :=
    ⟨_, _, Db.seeded_blank _ _, Db.seeded_budgetsAgree _ _, rfl⟩
  let payment : Payment :=
    { paymentRequestId := 0, amount := .seeded, currency := "USD", status := .processing,
      providerReference := none, providerOperationId := some 0 }
  have h : Undecided 0 0 payment db :=
    ⟨⟨by decide +kernel, by decide +kernel, by decide +kernel⟩, hs.invariant.sound,
      hs.budgetsAgree, by decide +kernel, rfl⟩
  have hfirst : firstDefinitive db payment samples =
      some ⟨0, ⟨250, 1⟩, "usd", ⟨0, 1⟩, .succeeded, some "ch"⟩ := by decide +kernel
  have hdoubted : doubted db payment samples = true := by decide +kernel
  obtain ⟨hstatus, hleaves, hevents, -⟩ := run_firstDefinitive h samples
  refine ⟨?_, ?_, ?_⟩
  · rwa [status, hfirst] at hstatus
  · rwa [verdict, hfirst] at hleaves
  · rwa [announced, hfirst, hdoubted] at hevents

end Finalization

end AgentPay
