import AgentPay.Books
import AgentPay.OneAmount
import AgentPay.Support.AtMostOnce

/-!
# What the provider executes for a payment

The lifecycle endpoints call the provider inside the database transaction. Before a provider that
executes an idempotency key once, what it has executed stays when the transaction rolls back: it
keeps captures apart from voids, and refunds within the capture, as long as no call that it executes
is at odds with one that the books have lost.
-/

namespace AgentPay

open Support

/-! ### Requests -/

/-- A request to one of the lifecycle endpoints of a payment. -/
structure LifecycleRequest where
  operation : LifecycleOperation
  amount : LifecycleAmount

namespace LifecycleRequest

/-- `_run` up to the provider call. -/
def progress (r : LifecycleRequest) (db : Db) (p : PaymentId) : Except Error Progress :=
  lifecycleRun db p r.amount r.operation

/-- `Decimal(amount.amount)` -/
def decimal (r : LifecycleRequest) : Decimal := r.amount.amount

/-- `amount.currency.upper()` -/
def currency (r : LifecycleRequest) : String := upper r.amount.currency

/-- The operation that is requested. -/
def call (r : LifecycleRequest) (accounts : LedgerAccounts) : LifecycleCall :=
  match r.operation with
  | .capture => .capture r.decimal r.currency accounts
  | .void    => .void r.decimal r.currency
  | .refund  => .refund r.decimal r.currency accounts

/-- The idempotency key that the provider is called under. -/
def key (r : LifecycleRequest) (p : PaymentId) : OperationKey :=
  match r.operation with
  | .capture => .capture p
  | .void    => .void p
  | .refund  => .refund p r.decimal r.currency

/-- The payment admits the operation: a capture or a void of its whole amount while it is
AUTHORIZED, a refund that no row answers and that is left of the POSTED captures. -/
def Admits (r : LifecycleRequest) (p : PaymentId) (db : Db) (payment : Payment) : Prop :=
  match r.operation with
  | .capture | .void =>
    payment.status = .authorized ∧ r.decimal.units = payment.amount.toDecimal.units
  | .refund =>
    payment.status ∈ Books.refundables ∧
      db.transactions.row? (.refund p r.decimal (normCurrency r.currency)) = none ∧
      r.decimal.units ≤ Books.left db p ∧ ∃ stored, Amount.store r.decimal = .ok stored

/-- The request gets as far as the provider. -/
structure Asks (r : LifecycleRequest) (p : PaymentId) (db : Db) : Prop where
  accounts : (ledgerAccounts db p).isSome
  cents : Refund.Cents r.decimal
  payment : ∃ payment, db.payments.get? p = some payment ∧
    normCurrency r.currency = normCurrency payment.currency ∧ r.Admits p db payment

variable {r : LifecycleRequest} {p : PaymentId} {db : Db}

lemma conflictOnValueError_eq_ok {α : Type} {x : Except Error α} {a : α} :
    conflictOnValueError x = .ok a ↔ x = .ok a := by
  rcases x with e | b
  · cases e <;> simp [conflictOnValueError]
  · rfl

/-- The endpoint runs the operation on the accounts of the payment. -/
lemma progress_eq_ok {progress : Progress} : r.progress db p = .ok progress ↔
    ∃ accounts, ledgerAccounts db p = some accounts ∧
      (r.call accounts).progress db p = .ok progress := by
  rw [LifecycleRequest.progress, lifecycleRun]
  cases haccounts : ledgerAccounts db p with
  | none => simp
  | some accounts =>
    simp only [conflictOnValueError_eq_ok, Option.some.injEq, exists_eq_left']
    rw [call]
    cases r.operation with
    | capture => rfl
    | void => rfl
    | refund => rfl

/-- The provider is asked only where the payment admits it, under the key of the request and for
its amount in cents. -/
lemma asks_of_calling (hkept : Books.Kept p db) {accounts : LedgerAccounts}
    (haccounts : ledgerAccounts db p = some accounts)
    {call : ProviderCall} {answered : ProviderOutcome → Except Error (PaymentStatus × Db)}
    (h : (r.call accounts).progress db p = .ok (.calling call answered)) :
    r.Asks p db ∧ call.idempotencyKey = r.key p ∧ call.operation = (r.key p).operationType ∧
      PaymentLifecycle.amountMinor r.decimal = .ok call.amountMinor := by
  have hsome : (ledgerAccounts db p).isSome := by rw [haccounts]; rfl
  rw [LifecycleRequest.call] at h
  cases hop : r.operation with
  | capture =>
    rw [hop] at h
    rcases PaymentLifecycle.capture_eq_ok h with hreturned | ⟨payment, _, _, minor, hp, hstatus,
      hvalid, -, hminor, hcalling⟩
    · cases hreturned
    obtain ⟨rfl, -⟩ := Progress.calling.inj hcalling
    obtain ⟨-, hunits, -, hcurrency⟩ := PaymentLifecycle.validateOperationAmount_eq_ok hvalid
    refine ⟨⟨hsome, ⟨minor, hminor⟩, payment, hp, hcurrency, ?_⟩, ?_, ?_, hminor⟩
    · rw [Admits, hop]
      exact ⟨hstatus, hunits⟩
    · rw [key, hop]
    · rw [key, hop]
      rfl
  | void =>
    rw [hop] at h
    rcases PaymentLifecycle.void_eq_ok h with hreturned | ⟨payment, _, _, minor, hp, hstatus,
      hvalid, -, hminor, hcalling⟩
    · cases hreturned
    obtain ⟨rfl, -⟩ := Progress.calling.inj hcalling
    obtain ⟨-, hunits, -, hcurrency⟩ := PaymentLifecycle.validateOperationAmount_eq_ok hvalid
    refine ⟨⟨hsome, ⟨minor, hminor⟩, payment, hp, hcurrency, ?_⟩, ?_, ?_, hminor⟩
    · rw [Admits, hop]
      exact ⟨hstatus, hunits⟩
    · rw [key, hop]
    · rw [key, hop]
      rfl
  | refund =>
    rw [hop] at h
    rcases PaymentLifecycle.refund_eq_ok h with ⟨_, hreturned, -⟩ | ⟨payment, _, db₁, _, _, minor,
      hp, hstatus, -, hcurrency, hunsettled, hwithin, hcreated, hcreate, hminor, hcalling⟩
    · cases hreturned
    obtain ⟨rfl, -⟩ := Progress.calling.inj hcalling
    obtain ⟨payment', hp', hphase⟩ := hkept.phase
    obtain rfl := Option.some.inj (hp.symm.trans hp')
    have hfree := Books.free_refund hkept.sound (hphase.of_refundable hstatus).pending hunsettled
    refine ⟨⟨hsome, ⟨minor, hminor⟩, payment, hp, hcurrency, ?_⟩, ?_, ?_, hminor⟩
    · rw [Admits, hop]
      obtain ⟨-, htransactions, -⟩ := Books.createProviderOperation_leaves hcreated
        (Books.get?_of_updateStatus hp .refundProcessing)
      obtain ⟨stored, hstored, -⟩ :=
        Books.createTransaction_appends hcreate (htransactions ▸ hfree)
      exact ⟨hstatus, hfree, hwithin, stored, hstored⟩
    · rw [key, hop]
    · rw [key, hop]
      rfl

/-- Where the payment admits it the provider is asked. -/
lemma calling_of_asks (hs : db.Sound) (h : r.Asks p db) : ∃ accounts call answered,
    ledgerAccounts db p = some accounts ∧
      (r.call accounts).progress db p = .ok (.calling call answered) := by
  obtain ⟨haccounts, ⟨minor, hminor⟩, payment, hp, hcurrency, hadmits⟩ := h
  obtain ⟨accounts, haccounts⟩ := Option.isSome_iff_exists.mp haccounts
  have hpos : 0 < r.decimal.units := (Refund.cents_iff.mp ⟨minor, hminor⟩).1
  have hvalid : r.decimal.units = payment.amount.toDecimal.units →
      PaymentLifecycle.validateOperationAmount r.decimal r.currency payment =
        .ok (normCurrency r.currency) := by
    intro hunits
    rw [PaymentLifecycle.validateOperationAmount, if_neg (not_le.mpr hpos),
      if_neg (not_not.mpr hunits), if_neg (not_not.mpr hcurrency)]
  rw [Admits] at hadmits
  suffices hcalling : ∃ call answered, (r.call accounts).progress db p =
      .ok (.calling call answered) by
    obtain ⟨call, answered, hcalling⟩ := hcalling
    exact ⟨accounts, call, answered, haccounts, hcalling⟩
  rw [LifecycleRequest.call]
  cases hop : r.operation with
  | capture =>
    rw [hop] at hadmits
    obtain ⟨hstatus, hunits⟩ := hadmits
    obtain ⟨id, db₁, hcreate, -⟩ := Refund.createProviderOperation_ok hs (.capture p)
    have hcreate : PaymentRepository.createProviderOperation db p .capture (.capture p) =
        .ok (id, db₁) := hcreate
    simp only [LifecycleCall.progress, PaymentLifecycle.capture, hp, hstatus]
    rw [if_neg (by decide), if_neg (by decide), hvalid hunits]
    simp only [bind, Except.bind, hcreate, hminor]
    exact ⟨_, _, rfl⟩
  | void =>
    rw [hop] at hadmits
    obtain ⟨hstatus, hunits⟩ := hadmits
    obtain ⟨id, db₁, hcreate, -⟩ := Refund.createProviderOperation_ok
      (Effect.updateStatus hs p .voidRequested none).sound (.void p)
    have hcreate : PaymentRepository.createProviderOperation
        (PaymentRepository.updateStatus db p .voidRequested none) p .void (.void p) =
          .ok (id, db₁) := hcreate
    simp only [LifecycleCall.progress, PaymentLifecycle.void, hp, hstatus]
    rw [if_neg (by decide), if_neg (by decide), hvalid hunits]
    simp only [bind, Except.bind, hcreate, hminor]
    exact ⟨_, _, rfl⟩
  | refund =>
    rw [hop] at hadmits
    obtain ⟨hstatus, hfree, hwithin, stored, hstored⟩ := hadmits
    have hrow : Refund.row ⟨p, r.decimal, r.currency, accounts⟩ db = none := by
      rw [Refund.row, Refund.key, hfree]
      rfl
    exact Refund.progress_unsettled (r := ⟨p, r.decimal, r.currency, accounts⟩) hp hstatus hpos
      hcurrency hs (.inl hrow) hwithin hstored hminor

end LifecycleRequest

/-! ### What an answer adds to the books -/

namespace Books

variable {db db' : Db} {p : PaymentId} {before status : PaymentStatus} {ts : List Transaction}
  {js : List LedgerJournal}

lemma Change.ne_authorized (h : Change db p before status ts js) : status ≠ .authorized := by
  cases h with
  | declined _ _ hstatus => rcases hstatus with rfl | rfl <;> decide
  | refunded => split_ifs <;> decide
  | _ => decide

/-- A payment can be refunded after a refund, and after a capture that is POSTED. -/
lemma Change.of_refundable (h : Change db p before status ts js) (hstatus : status ∈ refundables) :
    before ∈ refundables ∨
      before = .authorized ∧ ∃ t, ts = [t] ∧ t.type = .capture ∧ t.status = .posted := by
  cases h with
  | unanswered => exact absurd hstatus (by decide)
  | declined _ _ hfailed =>
    rcases hfailed with rfl | rfl
    · exact absurd hstatus (by decide)
    · exact absurd hstatus (by decide)
  | @captured t _ _ htype ht => exact .inr ⟨rfl, t, rfl, htype, ht⟩
  | voided => exact absurd hstatus (by decide)
  | refundUnanswered => exact absurd hstatus (by decide)
  | refundDeclined hbefore => exact .inl hbefore
  | refunded hbefore => exact .inl hbefore

/-- Rows that are not POSTED count for nothing. -/
lemma postedSum_append_unposted (h : db'.transactions.rows = db.transactions.rows ++ ts)
    (hts : ∀ t ∈ ts, t.status ≠ .posted) (type : TransactionType) :
    PaymentLifecycle.postedSum db' p type = PaymentLifecycle.postedSum db p type := by
  have hzero : (ts.map fun t => if t.paymentId = p ∧ t.type = type ∧ t.status = .posted then
      t.amount.units else 0).sum = 0 := by
    refine List.sum_eq_zero fun n hn => ?_
    obtain ⟨t, ht, rfl⟩ := List.mem_map.mp hn
    exact if_neg fun hposted => hts t ht hposted.2.2
  rw [PaymentLifecycle.postedSum, h, List.map_append, List.sum_append, hzero, Nat.add_zero]
  rfl

end Books

/-! ### The database and the provider -/

/-- What the provider does with a call under a key that is new to it: it executes the call and says
so, refuses it, or does not answer. -/
inductive ProviderReply where
  | accepts
  | refuses
  | silent (executes : Bool)
  deriving DecidableEq, Repr

namespace ProviderReply

def executes : ProviderReply → Bool
  | .accepts         => true
  | .refuses         => false
  | .silent executes => executes

/-- The answer. What has been executed under the key has succeeded. -/
def outcome (known : Bool) : ProviderReply → ProviderOutcome
  | .accepts  => .succeeded
  | .refuses  => if known then .succeeded else .failed
  | .silent _ => .unknown

/-- A success is told only of a call that has been executed. -/
lemma executes_of_succeeded {known : Bool} {reply : ProviderReply}
    (h : reply.outcome known = .succeeded) : reply.executes = true ∨ known = true := by
  cases reply with
  | accepts => exact .inl rfl
  | refuses =>
    simp only [outcome] at h
    split_ifs at h with hknown
    exact .inr hknown
  | silent executes => cases h

end ProviderReply

/-- A request, what the provider does with the call, and whether the transaction commits. -/
structure LifecycleTurn where
  request : LifecycleRequest
  reply : ProviderReply
  commits : Bool

/-- The database, and the calls that the provider has executed for the payment. -/
structure Worlds where
  db : Db
  executed : List ProviderCall

namespace Worlds

/-- The provider has executed a call under the key. -/
abbrev Knows (w : Worlds) (key : OperationKey) : Prop :=
  AtMostOnce.Known ProviderCall.idempotencyKey w.executed key

/-- A request to `_run`. The provider's side of it is not undone when the transaction rolls
back. -/
def step (p : PaymentId) (w : Worlds) (x : LifecycleTurn) : Worlds :=
  match x.request.progress w.db p with
  | .error _ => w
  | .ok (.returned _ db) => { w with db := if x.commits then db else w.db }
  | .ok (.calling call answered) =>
    let outcome := x.reply.outcome (decide (w.Knows call.idempotencyKey))
    { db := if x.commits then w.db.commit ((answered outcome).map (·.2)) else w.db
      executed :=
        AtMostOnce.submit ProviderCall.idempotencyKey w.executed call x.reply.executes }

/-- The operations that take the amount of the payment. -/
def takings : List OperationType := [.charge, .capture]

lemma takes_ne {operation : OperationType} (h : operation ∈ takings) :
    operation ≠ .void ∧ operation ≠ .refund := by
  constructor
  · rintro rfl
    exact absurd h (by decide)
  · rintro rfl
    exact absurd h (by decide)

/-- The total that the provider has captured, in minor units. -/
def captured (w : Worlds) : ℤ :=
  AtMostOnce.tally ProviderCall.amountMinor (fun call => call.operation ∈ takings) w.executed

/-- The total that the provider has refunded. -/
def refunded (w : Worlds) : ℤ :=
  AtMostOnce.tally ProviderCall.amountMinor (fun call => call.operation = .refund) w.executed

/-- The provider has not both captured and voided the payment, and has not refunded more than it
captured. -/
structure Safe (w : Worlds) : Prop where
  apart : ¬ ((∃ call ∈ w.executed, call.operation ∈ takings) ∧
    ∃ call ∈ w.executed, call.operation = .void)
  within : w.refunded ≤ w.captured

instance (w : Worlds) : Decidable w.Safe :=
  decidable_of_iff (¬ ((∃ call ∈ w.executed, call.operation ∈ takings) ∧
      ∃ call ∈ w.executed, call.operation = .void) ∧ w.refunded ≤ w.captured)
    ⟨fun h => ⟨h.1, h.2⟩, fun h => ⟨h.apart, h.within⟩⟩

/-- The books have what was executed under the key: a POSTED capture or void, or the journal of a
refund. -/
def Recorded (db : Db) : OperationKey → Prop
  | .charge p | .capture p => ∃ t ∈ db.transactionsOf p, t.type = .capture ∧ t.status = .posted
  | .void p => ∃ t ∈ db.transactionsOf p, t.type = .void ∧ t.status = .posted
  | .refund p amount currency =>
    .refund p amount currency ∈ db.ledgerJournals.rows.map (·.idempotencyKey)

instance (db : Db) : DecidablePred (Recorded db)
  | .charge _ | .capture _ | .void _ => inferInstanceAs (Decidable (∃ t ∈ _, _))
  | .refund _ _ _                    => inferInstanceAs (Decidable (_ ∈ _))

/-- What the provider has executed and the books do not have. -/
def lost (w : Worlds) : List ProviderCall :=
  w.executed.filter fun call => decide ¬ Recorded w.db call.idempotencyKey

/-- The total of the refunds that are lost. -/
def lostRefunds (w : Worlds) : ℤ :=
  AtMostOnce.tally ProviderCall.amountMinor (fun call => call.operation = .refund) w.lost

/-- What is lost leaves room for the call: no void for a capture, no capture for a void, and so few
refunds for a refund that its amount is still left. -/
def LeavesRoom (p : PaymentId) (w : Worlds) (r : LifecycleRequest) : Prop :=
  match r.operation with
  | .capture => ∀ call ∈ w.lost, call.operation ≠ .void
  | .void    => ∀ call ∈ w.lost, call.operation ∉ takings
  | .refund  => r.decimal.units + 100 * w.lostRefunds ≤ Books.left w.db p

/-- A call that the provider executes is one that what is lost leaves room for. -/
def Covered (p : PaymentId) (w : Worlds) (x : LifecycleTurn) : Prop :=
  x.request.Asks p w.db → x.reply.executes = true → ¬ w.Knows (x.request.key p) →
    w.LeavesRoom p x.request

/-! ### The invariant -/

/-- The total of the refunds that the books have. -/
def recordedRefunds (w : Worlds) : ℤ :=
  AtMostOnce.tally ProviderCall.amountMinor
    (fun call => call.operation = .refund ∧ Recorded w.db call.idempotencyKey) w.executed

lemma refunded_eq (w : Worlds) : w.refunded = w.recordedRefunds + w.lostRefunds := by
  rw [lostRefunds, lost, AtMostOnce.tally_filter]
  exact AtMostOnce.tally_split _

/-- The call is for the payment, for the operation of its key, and a refund for the amount of its
key. -/
structure Filed (p : PaymentId) (call : ProviderCall) : Prop where
  payment : call.idempotencyKey.paymentId = p
  operation : call.operation = call.idempotencyKey.operationType
  refund : ∀ {q amount currency}, call.idempotencyKey = .refund q amount currency →
    PaymentLifecycle.amountMinor amount = .ok call.amountMinor

/-- The books and the provider's calls: what is captured while the payment is AUTHORIZED is its
amount or nothing, what is captured later is what the books have, and so are the refunds that are
not lost. -/
structure Tracks (p : PaymentId) (w : Worlds) : Prop where
  kept : Books.Kept p w.db
  nodup : (w.executed.map ProviderCall.idempotencyKey).Nodup
  filed : ∀ call ∈ w.executed, Filed p call
  authorized : ∀ payment, w.db.payments.get? p = some payment → payment.status = .authorized →
    100 * w.captured = if w.Knows (.capture p) then (payment.amount.units : ℤ) else 0
  captured : ∀ payment, w.db.payments.get? p = some payment →
    payment.status ∈ Books.refundables →
      100 * w.captured = PaymentLifecycle.postedSum w.db p .capture
  refunded : 100 * w.recordedRefunds = PaymentLifecycle.postedSum w.db p .refund

lemma units_of_amountMinor {amount : Decimal} {minor : ℤ}
    (h : PaymentLifecycle.amountMinor amount = .ok minor) : amount.units = 100 * minor := by
  obtain ⟨-, n, hn⟩ := Refund.cents_iff.mp ⟨minor, h⟩
  have hexact := amountMinor_exact_iff.mpr ⟨n, by rw [hn, mul_comm]⟩
  simp only [PaymentLifecycle.amountMinor] at h
  split_ifs at h
  rw [← Except.ok.inj h, ← hexact, mul_comm]

/-- A refund that the payment admits is not on the books. -/
lemma not_recorded {p : PaymentId} {db : Db} (hkept : Books.Kept p db) {amount : Decimal}
    {currency : String}
    (hfree : db.transactions.row? (.refund p amount (normCurrency currency)) = none) :
    ¬ Recorded db (.refund p amount currency) := by
  intro h
  obtain ⟨j, hj, hkey⟩ := List.mem_map.mp h
  have hof : j ∈ db.journalsOf p :=
    List.mem_filter.mpr ⟨hj, decide_eq_true (by rw [hkey]; rfl)⟩
  obtain ⟨t, ht, htkey, -⟩ := hkept.rows.keyed j hof amount currency hkey
  exact Table.row?_eq_none.mp hfree t ht (congrArg some htkey)

section Submit

variable {p : PaymentId} {w : Worlds} {r : LifecycleRequest} {call : ProviderCall}

/-- The provider executes a call, and the database stays as it is. -/
lemma Tracks.submit (h : w.Tracks p) (hasks : r.Asks p w.db)
    (hkey : call.idempotencyKey = r.key p) (hoperation : call.operation = (r.key p).operationType)
    (hminor : PaymentLifecycle.amountMinor r.decimal = .ok call.amountMinor) (willing : Bool) :
    Tracks p ⟨w.db,
      AtMostOnce.submit ProviderCall.idempotencyKey w.executed call willing⟩ := by
  obtain ⟨-, -, payment, hp, -, hadmits⟩ := hasks
  have hunits := units_of_amountMinor hminor
  have hfiled : Filed p call := by
    refine ⟨?_, by rw [hoperation, hkey], ?_⟩
    · rw [hkey, LifecycleRequest.key]
      cases r.operation <;> rfl
    · intro q amount currency heq
      rw [hkey, LifecycleRequest.key] at heq
      cases hop : r.operation with
      | capture =>
        rw [hop] at heq
        cases heq
      | void =>
        rw [hop] at heq
        cases heq
      | refund =>
        rw [hop] at heq
        cases heq
        exact hminor
  by_cases hnew : willing = true ∧ ¬ w.Knows call.idempotencyKey
  swap
  · rw [AtMostOnce.submit_not hnew]
    exact h
  have hnodup : ((AtMostOnce.submit ProviderCall.idempotencyKey w.executed call willing).map
      ProviderCall.idempotencyKey).Nodup := AtMostOnce.nodup_submit h.nodup
  have hall : ∀ c ∈ AtMostOnce.submit ProviderCall.idempotencyKey w.executed call willing,
      Filed p c := AtMostOnce.forall_submit h.filed hfiled
  rw [AtMostOnce.submit_new hnew.1 hnew.2] at hnodup hall ⊢
  have hcaptured : Worlds.captured ⟨w.db, w.executed ++ [call]⟩ =
      w.captured + if call.operation ∈ takings then call.amountMinor else 0 :=
    AtMostOnce.tally_concat ..
  have hrecorded : Worlds.recordedRefunds ⟨w.db, w.executed ++ [call]⟩ = w.recordedRefunds +
      if call.operation = .refund ∧ Recorded w.db call.idempotencyKey then call.amountMinor
      else 0 := AtMostOnce.tally_concat ..
  rw [LifecycleRequest.Admits] at hadmits
  rw [LifecycleRequest.key] at hkey hoperation
  cases hop : r.operation with
  | capture =>
    rw [hop] at hadmits hkey hoperation
    obtain ⟨hstatus, hamount⟩ := hadmits
    have hkey : call.idempotencyKey = .capture p := hkey
    have hcall : call.operation = .capture := hoperation
    refine ⟨h.kept, hnodup, hall, ?_, ?_, ?_⟩
    · intro payment' hp' _
      obtain rfl := Option.some.inj (hp.symm.trans hp')
      have hbefore := h.authorized payment hp hstatus
      rw [if_neg (hkey ▸ hnew.2)] at hbefore
      rw [hcaptured, if_pos (by rw [hcall]; decide),
        if_pos ((AtMostOnce.known_concat _).mpr (.inr hkey.symm)), mul_add, hbefore, zero_add]
      rw [hunits, Amount.units_toDecimal] at hamount
      exact_mod_cast hamount
    · intro payment' hp' hrefundable
      obtain rfl := Option.some.inj (hp.symm.trans hp')
      rw [hstatus] at hrefundable
      exact absurd hrefundable (by decide)
    · rw [hrecorded, if_neg (by simp [hcall]), add_zero]
      exact h.refunded
  | void =>
    rw [hop] at hadmits hkey hoperation
    obtain ⟨hstatus, -⟩ := hadmits
    have hkey : call.idempotencyKey = .void p := hkey
    have hcall : call.operation = .void := hoperation
    refine ⟨h.kept, hnodup, hall, ?_, ?_, ?_⟩
    · intro payment' hp' hstatus'
      have hknows : Knows ⟨w.db, w.executed ++ [call]⟩ (.capture p) ↔ w.Knows (.capture p) := by
        simp [Knows, hkey]
      rw [hcaptured, if_neg (by rw [hcall]; decide), add_zero, h.authorized payment' hp' hstatus']
      simp [hknows]
    · intro payment' hp' hrefundable
      obtain rfl := Option.some.inj (hp.symm.trans hp')
      rw [hstatus] at hrefundable
      exact absurd hrefundable (by decide)
    · rw [hrecorded, if_neg (by simp [hcall]), add_zero]
      exact h.refunded
  | refund =>
    rw [hop] at hadmits hkey hoperation
    obtain ⟨hstatus, hfree, -⟩ := hadmits
    have hkey : call.idempotencyKey = .refund p r.decimal r.currency := hkey
    have hcall : call.operation = .refund := hoperation
    refine ⟨h.kept, hnodup, hall, ?_, ?_, ?_⟩
    · intro payment' hp' hauthorized
      obtain rfl := Option.some.inj (hp.symm.trans hp')
      rw [hauthorized] at hstatus
      exact absurd hstatus (by decide)
    · intro payment' hp' hrefundable
      rw [hcaptured, if_neg (by rw [hcall]; decide), add_zero]
      exact h.captured payment' hp' hrefundable
    · have hnot : ¬ Recorded w.db call.idempotencyKey := by
        rw [hkey]
        exact not_recorded h.kept hfree
      rw [hrecorded, if_neg fun hrec => hnot hrec.2, add_zero]
      exact h.refunded

end Submit

/-- The transaction commits with the provider's answer: from which payment row to which, and with
which rows on the books. -/
structure Commits (p : PaymentId) (r : LifecycleRequest) (accounts : LedgerAccounts)
    (outcome : ProviderOutcome) (db db' : Db) (payment payment' : Payment) (ts : List Transaction)
    (js : List LedgerJournal) : Prop where
  kept : Books.Kept p db'
  before : db.payments.get? p = some payment
  after : db'.payments.get? p = some payment'
  admits : r.Admits p db payment
  change : Books.Change db p payment.status payment'.status ts js
  transactions : db'.transactions.rows = db.transactions.rows ++ ts
  journals : db'.ledgerJournals.rows = db.ledgerJournals.rows ++ js
  reflects : Books.Reflects (r.call accounts) p outcome ts js

section Commits

variable {p : PaymentId} {w : Worlds} {r : LifecycleRequest} {accounts : LedgerAccounts}
  {outcome : ProviderOutcome} {db' : Db} {payment payment' : Payment} {ts : List Transaction}
  {js : List LedgerJournal} {t : Transaction}

lemma Commits.of_answered {call : ProviderCall}
    {answered : ProviderOutcome → Except Error (PaymentStatus × Db)} (hkept : Books.Kept p w.db)
    (haccounts : ledgerAccounts w.db p = some accounts)
    (hcalling : (r.call accounts).progress w.db p = .ok (.calling call answered))
    {answer : PaymentStatus} (hanswer : answered outcome = .ok (answer, db')) :
    ∃ payment payment' ts js, Commits p r accounts outcome w.db db' payment payment' ts js := by
  obtain ⟨⟨-, -, payment₀, hp₀, -, hadmits⟩, -, -, hminor⟩ :=
    LifecycleRequest.asks_of_calling hkept haccounts hcalling
  obtain ⟨payment, status, ts, js, hp, hchange, ⟨⟨payment', hp', rfl⟩, htransactions, hjournals⟩,
    hreflects⟩ := Books.answered_changes hkept hcalling hanswer
  obtain rfl := Option.some.inj (hp.symm.trans hp₀)
  have hkept' : Books.Kept p db' := by
    have hstep := hkept.step ⟨r.call accounts, outcome, true⟩
    have hrun : (r.call accounts).run w.db p outcome = .ok (answer, db') :=
      Except.bind_eq_ok.mpr ⟨_, hcalling, hanswer⟩
    rw [LifecycleAttempt.step, if_pos rfl, hrun] at hstep
    exact hstep
  exact ⟨payment, payment', ts, js, hkept', hp, hp', hadmits, hchange, htransactions, hjournals,
    hreflects⟩

variable (h : w.Tracks p) (hc : Commits p r accounts outcome w.db db' payment payment' ts js)

include hc in
lemma Commits.recorded_iff (q : PaymentId) (amount : Decimal) (currency : String) :
    Recorded db' (.refund q amount currency) ↔ Recorded w.db (.refund q amount currency) ∨
      JournalKey.refund q amount currency ∈ js.map (·.idempotencyKey) := by
  simp [Recorded, hc.journals]

include h hc

/-- It is left to see that the sums agree. -/
lemma Commits.tracks (hcaptured : payment'.status ∈ Books.refundables →
      100 * w.captured = PaymentLifecycle.postedSum db' p .capture)
    (hrefunded : 100 * Worlds.recordedRefunds ⟨db', w.executed⟩ =
      PaymentLifecycle.postedSum db' p .refund) : Tracks p ⟨db', w.executed⟩ := by
  refine ⟨hc.kept, h.nodup, h.filed, ?_, ?_, hrefunded⟩
  · intro payment'' hp'' hstatus
    obtain rfl := Option.some.inj (hc.after.symm.trans hp'')
    exact absurd hstatus hc.change.ne_authorized
  · intro payment'' hp'' hrefundable
    obtain rfl := Option.some.inj (hc.after.symm.trans hp'')
    exact hcaptured hrefundable

/-- No refund comes to be recorded without its journal. -/
lemma Commits.recordedRefunds_eq
    (hjs : ∀ q amount currency, JournalKey.refund q amount currency ∉ js.map (·.idempotencyKey)) :
    Worlds.recordedRefunds ⟨db', w.executed⟩ = w.recordedRefunds := by
  apply AtMostOnce.tally_congr
  intro call hcall
  refine and_congr_right fun hrefund => ?_
  have hop := (h.filed call hcall).operation
  cases hkey : call.idempotencyKey with
  | refund q amount currency =>
    exact (hc.recorded_iff q amount currency).trans (or_iff_left (hjs q amount currency))
  | _ =>
    rw [hkey, hrefund] at hop
    cases hop

lemma Commits.tracks_unposted (hunposted : outcome ≠ .succeeded) :
    Tracks p ⟨db', w.executed⟩ := by
  have hreflects := hc.reflects
  rw [Books.Reflects, if_neg hunposted] at hreflects
  obtain ⟨hts, rfl⟩ := hreflects
  apply hc.tracks h
  · intro hrefundable
    rcases hc.change.of_refundable hrefundable with hbefore | ⟨-, t, rfl, -, hposted⟩
    · rw [Books.postedSum_append_unposted hc.transactions hts]
      exact h.captured payment hc.before hbefore
    · exact absurd hposted (hts t (List.mem_singleton_self t))
  · rw [Books.postedSum_append_unposted hc.transactions hts, hc.recordedRefunds_eq h (by simp)]
    exact h.refunded

lemma Commits.tracks_capture (hop : r.operation = .capture) (hsucceeded : outcome = .succeeded)
    (hknows : w.Knows (r.key p)) : Tracks p ⟨db', w.executed⟩ := by
  have hreflects := hc.reflects
  have hadmits := hc.admits
  rw [Books.Reflects, if_pos hsucceeded, LifecycleRequest.call, hop] at hreflects
  rw [LifecycleRequest.Admits, hop] at hadmits
  rw [LifecycleRequest.key, hop] at hknows
  obtain ⟨⟨t, rfl, htp, htype, hposted, hunits⟩, hkeys⟩ := hreflects
  obtain ⟨hstatus, hamount⟩ := hadmits
  have htype : t.type = .capture := htype
  have hsum := Books.postedSum_concat hc.transactions p
  apply hc.tracks h
  · intro _
    obtain ⟨payment'', hp'', hphase⟩ := h.kept.phase
    obtain rfl := Option.some.inj (hc.before.symm.trans hp'')
    rw [hstatus] at hphase
    have hzero : PaymentLifecycle.postedSum w.db p .capture = 0 :=
      Books.postedSum_eq_zero (by simp [hphase.of_authorized.1])
    rw [hsum, if_pos ⟨htp, htype, hposted⟩, hzero, Nat.zero_add]
    have hcaptured := h.authorized payment hc.before hstatus
    rw [if_pos hknows] at hcaptured
    have hpaid : (t.amount.units : ℚ) = payment.amount.units := by
      rw [hunits, ← Amount.units_toDecimal, ← hamount]
      rfl
    exact hcaptured.trans (by exact_mod_cast hpaid.symm)
  · rw [hsum, if_neg (by simp [htype]), Nat.add_zero,
      hc.recordedRefunds_eq h (by simp [hkeys, LifecycleCall.posts])]
    exact h.refunded

lemma Commits.tracks_void (hop : r.operation = .void) (hsucceeded : outcome = .succeeded) :
    Tracks p ⟨db', w.executed⟩ := by
  have hreflects := hc.reflects
  have hadmits := hc.admits
  rw [Books.Reflects, if_pos hsucceeded, LifecycleRequest.call, hop] at hreflects
  rw [LifecycleRequest.Admits, hop] at hadmits
  obtain ⟨⟨t, rfl, htp, htype, hposted, hunits⟩, hkeys⟩ := hreflects
  have htype : t.type = .void := htype
  apply hc.tracks h
  · intro hrefundable
    rcases hc.change.of_refundable hrefundable with hbefore | ⟨-, t', ht', hcapture, -⟩
    · rw [hadmits.1] at hbefore
      exact absurd hbefore (by decide)
    · obtain rfl := (List.cons.inj ht').1
      cases htype.symm.trans hcapture
  · rw [Books.postedSum_concat hc.transactions p, if_neg (by simp [htype]), Nat.add_zero,
      hc.recordedRefunds_eq h (by simp [hkeys, LifecycleCall.posts])]
    exact h.refunded

/-- The call under the key of the refund is the one that comes to be recorded. -/
lemma Commits.recordedRefunds_add (hkeys : js.map (·.idempotencyKey) =
      [JournalKey.refund p r.decimal r.currency])
    (hnot : ¬ Recorded w.db (.refund p r.decimal r.currency)) {c : ProviderCall}
    (hmem : c ∈ w.executed) (hckey : c.idempotencyKey = .refund p r.decimal r.currency) :
    Worlds.recordedRefunds ⟨db', w.executed⟩ = w.recordedRefunds + c.amountMinor := by
  have hadded := AtMostOnce.tally_record
    (P := fun call => call.operation = .refund ∧ Recorded w.db call.idempotencyKey)
    ProviderCall.amountMinor h.nodup hmem (fun hrec => hnot (hckey ▸ hrec.2))
  refine Eq.trans (AtMostOnce.tally_congr _ fun d hd => ?_) hadded
  have hdop := (h.filed d hd).operation
  rw [hckey]
  cases hdkey : d.idempotencyKey with
  | refund q amount currency =>
    rw [hdkey] at hdop
    have hdop : d.operation = .refund := hdop
    simp [hdop, hc.recorded_iff, hkeys]
  | _ =>
    rw [hdkey] at hdop
    simp [hdop, OperationKey.operationType]

lemma Commits.tracks_refund (hop : r.operation = .refund) (hsucceeded : outcome = .succeeded)
    (hknows : w.Knows (r.key p)) : Tracks p ⟨db', w.executed⟩ := by
  have hreflects := hc.reflects
  have hadmits := hc.admits
  rw [Books.Reflects, if_pos hsucceeded, LifecycleRequest.call, hop] at hreflects
  rw [LifecycleRequest.Admits, hop] at hadmits
  rw [LifecycleRequest.key, hop] at hknows
  obtain ⟨⟨t, rfl, htp, htype, hposted, hunits⟩, hkeys⟩ := hreflects
  obtain ⟨hstatus, hfree, -⟩ := hadmits
  have htype : t.type = .refund := htype
  have hsum := Books.postedSum_concat hc.transactions p
  apply hc.tracks h
  · intro _
    rw [hsum, if_neg (by simp [htype]), Nat.add_zero]
    exact h.captured payment hc.before hstatus
  · obtain ⟨c, hmem, hckey⟩ := List.mem_map.mp hknows
    have hpaid : (t.amount.units : ℚ) = 100 * c.amountMinor :=
      hunits.trans (units_of_amountMinor ((h.filed c hmem).refund hckey))
    rw [hsum, if_pos ⟨htp, htype, hposted⟩,
      hc.recordedRefunds_add h hkeys (not_recorded h.kept hfree) hmem hckey, mul_add, h.refunded]
    push_cast
    congr 1
    exact_mod_cast hpaid.symm

/-- The provider's call has been executed, and what is done with the answer commits. -/
lemma Tracks.commits (hknows : outcome = .succeeded → w.Knows (r.key p)) :
    Tracks p ⟨db', w.executed⟩ := by
  by_cases hsucceeded : outcome = .succeeded
  · cases hop : r.operation with
    | capture => exact hc.tracks_capture h hop hsucceeded (hknows hsucceeded)
    | void    => exact hc.tracks_void h hop hsucceeded
    | refund  => exact hc.tracks_refund h hop hsucceeded (hknows hsucceeded)
  · exact hc.tracks_unposted h hsucceeded

end Commits

/-! ### Where the provider stays safe -/

section Room

variable {p : PaymentId} {w : Worlds} {r : LifecycleRequest} {call : ProviderCall}

/-- Of an AUTHORIZED payment the books have nothing. -/
lemma Tracks.mem_lost (h : w.Tracks p) {payment : Payment}
    (hp : w.db.payments.get? p = some payment) (hstatus : payment.status = .authorized)
    {c : ProviderCall} (hc : c ∈ w.executed) (hop : c.operation ≠ .refund) : c ∈ w.lost := by
  obtain ⟨payment', hp', hphase⟩ := h.kept.phase
  obtain rfl := Option.some.inj (hp.symm.trans hp')
  rw [hstatus] at hphase
  have hnone := hphase.of_authorized.1
  have hpayment := (h.filed c hc).payment
  have hoperation := (h.filed c hc).operation
  refine List.mem_filter.mpr ⟨hc, decide_eq_true ?_⟩
  cases hkey : c.idempotencyKey with
  | refund q amount currency =>
    rw [hkey] at hoperation
    exact absurd hoperation hop
  | _ q =>
    rw [hkey] at hpayment
    obtain rfl : q = p := hpayment
    simp [Recorded, hnone]

/-- A refund fits what is left besides the lost refunds exactly when the provider has captured
enough for it. -/
lemma Tracks.left_iff (h : w.Tracks p) {payment : Payment}
    (hp : w.db.payments.get? p = some payment) (hstatus : payment.status ∈ Books.refundables)
    {amount : Decimal} {minor : ℤ} (hunits : amount.units = 100 * minor) :
    amount.units + 100 * w.lostRefunds ≤ Books.left w.db p ↔
      w.refunded + minor ≤ w.captured := by
  have hbooked : (PaymentLifecycle.postedSum w.db p .capture : ℚ) = 100 * w.captured := by
    exact_mod_cast (h.captured payment hp hstatus).symm
  have hrecorded : (PaymentLifecycle.postedSum w.db p .refund : ℚ) = 100 * w.recordedRefunds := by
    exact_mod_cast h.refunded.symm
  have hsplit : (w.refunded : ℚ) = w.recordedRefunds + w.lostRefunds := by
    exact_mod_cast w.refunded_eq
  rw [Books.left, hunits, hbooked, hrecorded]
  constructor
  · intro hleft
    have hle : (w.refunded : ℚ) + minor ≤ w.captured := by
      rw [hsplit]
      linarith
    exact_mod_cast hle
  · intro hle
    have hle : (w.refunded : ℚ) + minor ≤ w.captured := by exact_mod_cast hle
    rw [hsplit] at hle
    linarith

/-- The provider stays safe with a call exactly when what is lost leaves room for it. -/
lemma Tracks.safe_submit_iff (h : w.Tracks p) (hsafe : w.Safe) (hasks : r.Asks p w.db)
    (hkey : call.idempotencyKey = r.key p) (hoperation : call.operation = (r.key p).operationType)
    (hminor : PaymentLifecycle.amountMinor r.decimal = .ok call.amountMinor) (willing : Bool)
    (db' : Db) :
    Safe ⟨db', AtMostOnce.submit ProviderCall.idempotencyKey w.executed call willing⟩ ↔
      (willing = true → ¬ w.Knows (r.key p) → w.LeavesRoom p r) := by
  obtain ⟨-, -, payment, hp, -, hadmits⟩ := hasks
  have hunits := units_of_amountMinor hminor
  have hpos : 0 < call.amountMinor := by
    have hpos := (Refund.cents_iff.mp ⟨_, hminor⟩).1
    rw [hunits] at hpos
    exact_mod_cast (by linarith : (0 : ℚ) < call.amountMinor)
  by_cases hnew : willing = true ∧ ¬ w.Knows call.idempotencyKey
  swap
  · rw [AtMostOnce.submit_not hnew]
    refine iff_of_true ⟨hsafe.apart, hsafe.within⟩ fun hwilling hknows => ?_
    exact absurd ⟨hwilling, hkey ▸ hknows⟩ hnew
  rw [AtMostOnce.submit_new hnew.1 hnew.2]
  have hroom : (willing = true → ¬ w.Knows (r.key p) → w.LeavesRoom p r) ↔ w.LeavesRoom p r :=
    ⟨fun hall => hall hnew.1 (hkey ▸ hnew.2), fun hroom _ _ => hroom⟩
  have hcaptured : Worlds.captured ⟨db', w.executed ++ [call]⟩ =
      w.captured + if call.operation ∈ takings then call.amountMinor else 0 :=
    AtMostOnce.tally_concat ..
  have hrefunded : Worlds.refunded ⟨db', w.executed ++ [call]⟩ =
      w.refunded + if call.operation = .refund then call.amountMinor else 0 :=
    AtMostOnce.tally_concat ..
  rw [hroom, LeavesRoom]
  rw [LifecycleRequest.Admits] at hadmits
  rw [LifecycleRequest.key] at hoperation
  cases hop : r.operation with
  | capture =>
    rw [hop] at hadmits hoperation
    have hcall : call.operation = .capture := hoperation
    constructor
    · intro hafter c hc hvoid
      exact hafter.apart ⟨⟨call, by simp, by rw [hcall]; decide⟩, c,
        List.mem_append_left _ (List.mem_filter.mp hc).1, hvoid⟩
    · intro hlost
      refine ⟨?_, ?_⟩
      · rintro ⟨-, c, hc, hvoid⟩
        rcases List.mem_append.mp hc with hc | hc
        · exact hlost c (h.mem_lost hp hadmits.1 hc (by rw [hvoid]; decide)) hvoid
        · rw [List.mem_singleton.mp hc, hcall] at hvoid
          cases hvoid
      · rw [hcaptured, hrefunded, if_neg (by rw [hcall]; decide), if_pos (by rw [hcall]; decide)]
        have hwithin := hsafe.within
        omega
  | void =>
    rw [hop] at hadmits hoperation
    have hcall : call.operation = .void := hoperation
    constructor
    · intro hafter c hc htaking
      exact hafter.apart ⟨⟨c, List.mem_append_left _ (List.mem_filter.mp hc).1, htaking⟩, call,
        by simp, hcall⟩
    · intro hlost
      refine ⟨?_, ?_⟩
      · rintro ⟨⟨c, hc, htaking⟩, -⟩
        rcases List.mem_append.mp hc with hc | hc
        · exact hlost c (h.mem_lost hp hadmits.1 hc (takes_ne htaking).2) htaking
        · rw [List.mem_singleton.mp hc, hcall] at htaking
          exact absurd htaking (by decide)
      · rw [hcaptured, hrefunded, if_neg (by rw [hcall]; decide), if_neg (by rw [hcall]; decide)]
        simpa using hsafe.within
  | refund =>
    rw [hop] at hadmits hoperation
    have hcall : call.operation = .refund := hoperation
    rw [h.left_iff hp hadmits.1 hunits]
    constructor
    · intro hafter
      have hafter := hafter.within
      rwa [hcaptured, hrefunded, if_pos hcall, if_neg (by rw [hcall]; decide), add_zero] at hafter
    · intro hle
      refine ⟨?_, ?_⟩
      · rintro ⟨⟨c, hc, htaking⟩, d, hd, hvoid⟩
        have hold : ∀ e ∈ w.executed ++ [call], e.operation ≠ .refund → e ∈ w.executed := by
          intro e he hne
          rcases List.mem_append.mp he with he | he
          · exact he
          · rw [List.mem_singleton.mp he] at hne
            exact absurd hcall hne
        exact hsafe.apart ⟨⟨c, hold c hc (takes_ne htaking).2, htaking⟩, d,
          hold d hd (by rw [hvoid]; decide), hvoid⟩
      · rwa [hcaptured, hrefunded, if_pos hcall, if_neg (by rw [hcall]; decide), add_zero]

end Room

/-! ### Runs -/

section Step

variable {p : PaymentId} {w : Worlds} {x : LifecycleTurn}

lemma step_of_not_asks (h : w.Tracks p) (hnot : ¬ x.request.Asks p w.db) : w.step p x = w := by
  rw [step]
  cases hprogress : x.request.progress w.db p with
  | error e => rfl
  | ok progress =>
    obtain ⟨accounts, haccounts, hcall⟩ := LifecycleRequest.progress_eq_ok.mp hprogress
    cases progress with
    | returned status db =>
      obtain rfl := LifecycleCall.progress_returned hcall
      simp
    | calling call answered =>
      exact absurd (LifecycleRequest.asks_of_calling h.kept haccounts hcall).1 hnot

/-- One request keeps the books and the provider's calls together, and the provider safe exactly
where what is lost leaves room for the call. -/
lemma Tracks.step (h : w.Tracks p) (x : LifecycleTurn) :
    (w.step p x).Tracks p ∧ (w.Safe → ((w.step p x).Safe ↔ w.Covered p x)) := by
  by_cases hasks : x.request.Asks p w.db
  swap
  · rw [step_of_not_asks h hasks]
    exact ⟨h, fun hsafe => iff_of_true hsafe fun hasks' => absurd hasks' hasks⟩
  obtain ⟨accounts, call, answered, haccounts, hcalling⟩ :=
    LifecycleRequest.calling_of_asks h.kept.sound hasks
  obtain ⟨-, hkey, hoperation, hminor⟩ :=
    LifecycleRequest.asks_of_calling h.kept haccounts hcalling
  rw [Worlds.step, LifecycleRequest.progress_eq_ok.mpr ⟨accounts, haccounts, hcalling⟩]
  have hsubmit := h.submit hasks hkey hoperation hminor x.reply.executes
  constructor
  · dsimp only
    set outcome := x.reply.outcome (decide (w.Knows call.idempotencyKey)) with houtcome
    by_cases hcommits : x.commits = true
    swap
    · rw [if_neg hcommits]
      exact hsubmit
    rw [if_pos hcommits]
    cases hanswer : answered outcome with
    | error e => exact hsubmit
    | ok answer =>
      obtain ⟨payment, payment', ts, js, hcommits⟩ :=
        Commits.of_answered h.kept haccounts hcalling hanswer
      refine hsubmit.commits hcommits fun hsucceeded => ?_
      rw [← hkey]
      have hexecutes := ProviderReply.executes_of_succeeded (houtcome.symm.trans hsucceeded)
      exact AtMostOnce.known_submit (hexecutes.imp_right of_decide_eq_true)
  · intro hsafe
    rw [Covered]
    exact (h.safe_submit_iff hsafe hasks hkey hoperation hminor _ _).trans
      ⟨fun hroom _ => hroom, fun hcovered => hcovered hasks⟩

end Step

/-- Where a payment starts: authorized, and the provider has executed nothing, or captured, for the
amount that is on the books. -/
inductive Begins (p : PaymentId) (payment : Payment) (w : Worlds) : Prop where
  | authorized (hbooks : Books.Begins p payment w.db) (hstatus : payment.status = .authorized)
      (hexecuted : w.executed = [])
  | captured {call} (hbooks : Books.Begins p payment w.db) (hstatus : payment.status = .succeeded)
      (hexecuted : w.executed = [call]) (hkey : call.idempotencyKey ∈ [.charge p, .capture p])
      (hoperation : call.operation = call.idempotencyKey.operationType)
      (hamount : 100 * call.amountMinor = PaymentLifecycle.postedSum w.db p .capture)

section Begins

variable {p : PaymentId} {payment : Payment} {w : Worlds}

lemma takes_of_key {call : ProviderCall} (hkey : call.idempotencyKey ∈ [.charge p, .capture p])
    (hoperation : call.operation = call.idempotencyKey.operationType) :
    call.operation ∈ takings := by
  rw [hoperation]
  rcases List.mem_pair.mp hkey with hkey | hkey
  · simp [hkey, OperationKey.operationType, takings]
  · simp [hkey, OperationKey.operationType, takings]

lemma Begins.tracks (h : w.Begins p payment) (hs : w.db.Sound)
    (hp : w.db.payments.get? p = some payment) : w.Tracks p := by
  cases h with
  | authorized hbooks hstatus hexecuted =>
    have hkept := hbooks.kept hs hp
    have hnone : w.db.transactionsOf p = [] := by
      cases hbooks with
      | authorized _ htransactions => exact htransactions
      | captured hsucceeded => cases hstatus.symm.trans hsucceeded
    refine ⟨hkept, by simp [hexecuted], by simp [hexecuted], ?_, ?_, ?_⟩
    · intro _ _ _
      simp [Worlds.captured, AtMostOnce.Known, hexecuted]
    · intro payment' hp' hrefundable
      obtain rfl := Option.some.inj (hp.symm.trans hp')
      rw [hstatus] at hrefundable
      exact absurd hrefundable (by decide)
    · rw [Books.postedSum_eq_zero (by simp [hnone]), recordedRefunds, hexecuted]
      rfl
  | @captured call hbooks hstatus hexecuted hkey hoperation hamount =>
    have hkept := hbooks.kept hs hp
    have htaking := takes_of_key hkey hoperation
    have hrefunds : ∀ t ∈ w.db.transactionsOf p, t.status = .posted → t.type ≠ .refund := by
      cases hbooks with
      | authorized hauthorized => cases hstatus.symm.trans hauthorized
      | captured _ htransactions htype =>
        intro t ht _
        rw [htransactions] at ht
        rw [List.mem_singleton.mp ht, htype]
        decide
    have hrefund := (takes_ne htaking).2
    refine ⟨hkept, by simp [hexecuted], ?_, ?_, ?_, ?_⟩
    · intro c hc
      rw [hexecuted] at hc
      obtain rfl := List.mem_singleton.mp hc
      refine ⟨?_, hoperation, ?_⟩
      · rcases List.mem_pair.mp hkey with hkey | hkey <;> · rw [hkey]; rfl
      · intro q amount currency heq
        rw [heq] at hkey
        simp at hkey
    · intro payment' hp' hauthorized
      obtain rfl := Option.some.inj (hp.symm.trans hp')
      cases hstatus.symm.trans hauthorized
    · intro _ _ _
      rw [← hamount, Worlds.captured, hexecuted]
      simp [htaking]
    · rw [Books.postedSum_eq_zero hrefunds, recordedRefunds, hexecuted]
      simp [hrefund]

lemma Begins.safe (h : w.Begins p payment) : w.Safe := by
  cases h with
  | authorized hbooks hstatus hexecuted =>
    refine ⟨by simp [hexecuted], ?_⟩
    rw [refunded, Worlds.captured, hexecuted]
    rfl
  | @captured call hbooks hstatus hexecuted hkey hoperation hamount =>
    have htaking := takes_of_key hkey hoperation
    obtain ⟨hvoid, hrefund⟩ := takes_ne htaking
    constructor
    · simp [hexecuted, hvoid]
    · have hrefunded : w.refunded = 0 := by simp [refunded, hexecuted, hrefund]
      have hcaptured : w.captured = call.amountMinor := by
        simp [Worlds.captured, hexecuted, htaking]
      rw [hrefunded, hcaptured]
      omega

/-- In every state of every run of requests, committed or rolled back after the provider has been
called, the provider has not both captured and voided the payment and has not refunded more than it
captured, exactly when what is lost leaves room for every call that it executes. -/
theorem run_safe_iff (hs : w.db.Sound) (hp : w.db.payments.get? p = some payment)
    (h : w.Begins p payment) (xs : List LifecycleTurn) :
    (w.Safe ∧ Machine.Along (Worlds.step p) (fun w x => (w.step p x).Safe) w xs) ↔
      Machine.Along (Worlds.step p) (Covered p) w xs := by
  have htracks := h.tracks hs hp
  have hsafe := h.safe
  rw [and_iff_right hsafe]
  apply Machine.Along.congr (P := fun _ _ => True) (I := fun w => w.Tracks p ∧ w.Safe) ?_ ?_
    ⟨htracks, hsafe⟩ (Machine.along_of_forall (fun _ _ => trivial) _ _)
  · intro w x hw _ hafter
    exact ⟨(hw.1.step x).1, hafter⟩
  · intro w x hw _
    exact (hw.1.step x).2 hw.2

end Begins

/-! ### Calls that are lost -/

/-- An AUTHORIZED payment of 25 that the provider knows nothing of. -/
def fresh : Worlds := ⟨.seeded .authorized none, []⟩

/-- A request for so many dollars that the provider accepts. -/
def accepted (operation : LifecycleOperation) (dollars : ℕ) (commits : Bool) : LifecycleTurn :=
  ⟨⟨operation, ⟨dollars, ⟨0, Nat.succ_pos 4⟩, "USD", usd_iso⟩⟩, .accepts, commits⟩

/-- A capture and a refund that are lost and sent again, and a refund that is lost with enough left
for the next. -/
def retries : List LifecycleTurn :=
  [accepted .capture 25 false, accepted .capture 25 true, accepted .refund 10 false,
    accepted .refund 10 true, accepted .refund 5 false, accepted .refund 7 true]

/-- All of it is covered. -/
theorem run_safe_iff_retries : Machine.Along (Worlds.step 0) (Covered 0) fresh retries := by
  obtain ⟨payment, hp, hstatus⟩ : ∃ payment,
      fresh.db.payments.get? 0 = some payment ∧ payment.status = .authorized := ⟨_, rfl, rfl⟩
  have hbegins : fresh.Begins 0 payment := .authorized (.authorized hstatus rfl rfl) hstatus rfl
  exact (run_safe_iff (Db.seeded_sound _ _) hp hbegins retries).mp
    ⟨by decide +kernel, by decide +kernel⟩

/-- A capture that is lost is followed by a void, and a refund of 20 that is lost by one of 25: the
provider executes both calls. -/
theorem not_run_safe_lost :
    let voided := [accepted .capture 25 false, accepted .void 25 true]
    let refunded := [accepted .capture 25 true, accepted .refund 20 false, accepted .refund 25 true]
    (Machine.run (Worlds.step 0) fresh voided).executed.map (·.operation) = [.capture, .void] ∧
      ¬ Machine.Along (Worlds.step 0) (fun w x => (w.step 0 x).Safe) fresh voided ∧
      (Machine.run (Worlds.step 0) fresh refunded).captured = 2500 ∧
      (Machine.run (Worlds.step 0) fresh refunded).refunded = 4500 ∧
      ¬ Machine.Along (Worlds.step 0) (fun w x => (w.step 0 x).Safe) fresh refunded := by
  intro voided refunded
  refine ⟨by decide +kernel, ?_, by decide +kernel, by decide +kernel, ?_⟩
  · rintro ⟨-, hsafe, -⟩
    revert hsafe
    decide +kernel
  · rintro ⟨-, -, hsafe, -⟩
    revert hsafe
    decide +kernel

end Worlds

end AgentPay
