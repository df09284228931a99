import AgentPay.Schema

/-!
# The ledger

`post_journal`: a balanced journal, inserted once per idempotency key.
-/

namespace AgentPay

open Support

/-- A posting as the caller passes it: the side is free text until the column checks it. -/
structure PostingInput where
  ledgerAccountId : LedgerAccountId
  side : String
  amount : Decimal
  currency : String
  deriving DecidableEq, Repr

/-- The exact total of one side. -/
def sideTotal (side : String) (postings : List PostingInput) : ℚ :=
  (postings.map fun p => if p.side = side then p.amount.units else 0).sum

/-- `CHECK (side IN ('DEBIT', 'CREDIT'))` -/
def Side.parse (side : String) : Except Error Side :=
  if side = "DEBIT" then .ok .debit
  else if side = "CREDIT" then .ok .credit
  else .error .checkViolation

/-- One row of `ledger_postings`, with its foreign key and its two checks. -/
def storePosting (db : Db) (p : PostingInput) : Except Error LedgerPosting := do
  let side ← Side.parse p.side
  let amount ← Amount.store p.amount
  if p.ledgerAccountId < db.ledgerAccounts.length then
    return { ledgerAccountId := p.ledgerAccountId, side, amount, currency := p.currency }
  else throw .foreignKeyViolation

/-- `post_journal` -/
def postJournal (db : Db) (currency : String) (reference : JournalReference) (key : JournalKey)
    (postings : List PostingInput) : Except Error (ℕ × Db) :=
  let debit := sideTotal "DEBIT" postings
  let credit := sideTotal "CREDIT" postings
  if postings.isEmpty || decide (debit ≤ 0) || decide (credit ≤ 0) || decide (debit ≠ credit) then
    .error (.valueError "ledger journal must be balanced")
  else if postings.any fun p => p.currency ≠ currency then
    .error (.valueError "all postings must use the journal currency")
  else
    match db.ledgerJournals.idOf? key with
    | some id => .ok (id, db)
    | none => do
      let stored ← postings.mapM (storePosting db)
      match db.ledgerJournals.insert?
          { currency, reference, idempotencyKey := key, postings := stored } with
      | none => throw .uniqueViolation
      | some journals =>
        return (db.ledgerJournals.nextId, { db with ledgerJournals := journals })

/-- The two postings of every journal the payment paths post. -/
def transfer (debitAccount creditAccount : LedgerAccountId) (amount : Decimal)
    (currency : String) : List PostingInput :=
  [⟨debitAccount, "DEBIT", amount, currency⟩, ⟨creditAccount, "CREDIT", amount, currency⟩]

/-- The stored amount of one side of a journal. -/
def LedgerJournal.total (j : LedgerJournal) (side : Side) : ℕ :=
  (j.postings.map fun p => if p.side = side then p.amount.units else 0).sum

/-! ### Posting a transfer -/

lemma storePosting_eq_ok {db : Db} {account : LedgerAccountId} {side : String} {s : Side}
    (hside : Side.parse side = .ok s) {amount : Decimal} {currency : String}
    {posting : LedgerPosting} :
    storePosting db ⟨account, side, amount, currency⟩ = .ok posting ↔
      ∃ stored, Amount.store amount = .ok stored ∧ account < db.ledgerAccounts.length ∧
        posting = ⟨account, s, stored, currency⟩ := by
  simp only [storePosting, hside]
  rw [Except.bind_eq_ok]
  constructor
  · rintro ⟨s', hs, h⟩
    obtain rfl := Except.ok.inj hs
    obtain ⟨stored, hstore, h⟩ := Except.bind_eq_ok.mp h
    split_ifs at h with hlt
    exact ⟨stored, hstore, hlt, (Except.ok.inj h).symm⟩
  · rintro ⟨stored, hstore, hlt, rfl⟩
    refine ⟨s, rfl, Except.bind_eq_ok.mpr ⟨stored, hstore, ?_⟩⟩
    rw [if_pos hlt]
    rfl

/-- The rows of a transfer: both sides store the same amount. -/
lemma mapM_transfer_eq_ok {db : Db} {debitAccount creditAccount : LedgerAccountId}
    {amount : Decimal} {currency : String} {postings : List LedgerPosting} :
    (transfer debitAccount creditAccount amount currency).mapM (storePosting db) = .ok postings ↔
      ∃ stored, Amount.store amount = .ok stored ∧ debitAccount < db.ledgerAccounts.length ∧
        creditAccount < db.ledgerAccounts.length ∧
        postings = [⟨debitAccount, .debit, stored, currency⟩,
          ⟨creditAccount, .credit, stored, currency⟩] := by
  simp only [transfer, List.mapM_cons, List.mapM_nil, pure_bind]
  simp only [bind_assoc, pure_bind]
  rw [Except.bind_eq_ok]
  constructor
  · rintro ⟨debit, hdebit, h⟩
    obtain ⟨credit, hcredit, h⟩ := Except.bind_eq_ok.mp h
    obtain ⟨stored, hstore, hlt, rfl⟩ := (storePosting_eq_ok (s := .debit) rfl).mp hdebit
    obtain ⟨stored', hstore', hlt', rfl⟩ := (storePosting_eq_ok (s := .credit) rfl).mp hcredit
    obtain rfl : stored = stored' := by
      rw [hstore] at hstore'
      exact Except.ok.inj hstore'
    exact ⟨stored, hstore, hlt, hlt', (Except.ok.inj h).symm⟩
  · rintro ⟨stored, hstore, hlt, hlt', rfl⟩
    refine ⟨_, (storePosting_eq_ok (s := .debit) rfl).mpr ⟨stored, hstore, hlt, rfl⟩, ?_⟩
    rw [Except.bind_eq_ok]
    exact ⟨_, (storePosting_eq_ok (s := .credit) rfl).mpr ⟨stored, hstore, hlt', rfl⟩, rfl⟩

/-- The journal a transfer posts. -/
def transferJournal (debitAccount creditAccount : LedgerAccountId) (amount : Amount)
    (currency : String) (reference : JournalReference) (key : JournalKey) : LedgerJournal :=
  { currency, reference, idempotencyKey := key,
    postings := [⟨debitAccount, .debit, amount, currency⟩,
      ⟨creditAccount, .credit, amount, currency⟩] }

@[simp] lemma sideTotal_transfer (debitAccount creditAccount : LedgerAccountId)
    (amount : Decimal) (currency : String) :
    sideTotal "DEBIT" (transfer debitAccount creditAccount amount currency) = amount.units ∧
      sideTotal "CREDIT" (transfer debitAccount creditAccount amount currency) =
        amount.units := by
  simp [sideTotal, transfer]

/-- `post_journal` of a transfer: a journal that holds the key is left alone, else both accounts
must exist and the amount be storable. -/
lemma postJournal_transfer_eq_ok {db db' : Db} {debitAccount creditAccount : LedgerAccountId}
    {amount : Decimal} {currency : String} {reference : JournalReference} {key : JournalKey}
    {id : ℕ} :
    postJournal db currency reference key (transfer debitAccount creditAccount amount currency) =
        .ok (id, db') ↔
      0 < amount.units ∧
      ((db.ledgerJournals.idOf? key = some id ∧ db' = db) ∨
        (db.ledgerJournals.idOf? key = none ∧ id = db.ledgerJournals.nextId ∧
          debitAccount < db.ledgerAccounts.length ∧ creditAccount < db.ledgerAccounts.length ∧
          ∃ stored journals, Amount.store amount = .ok stored ∧
            db.ledgerJournals.insert? (transferJournal debitAccount creditAccount stored currency
              reference key) = some journals ∧
            db' = { db with ledgerJournals := journals })) := by
  obtain ⟨hdebit, hcredit⟩ := sideTotal_transfer debitAccount creditAccount amount currency
  simp only [postJournal, hdebit, hcredit]
  by_cases hpos : amount.units ≤ 0
  · simp [hpos, not_lt.mpr hpos]
  · have hcur : ((transfer debitAccount creditAccount amount currency).any fun p =>
        decide (p.currency ≠ currency)) = false := by simp [transfer]
    have hne : (transfer debitAccount creditAccount amount currency).isEmpty = false := rfl
    simp only [hne, hpos, hcur, not_le.mp hpos, ne_eq, not_true_eq_false, decide_false,
      Bool.or_self, Bool.false_eq_true, if_false, true_and]
    cases hid : db.ledgerJournals.idOf? key with
    | some id' => simp [eq_comm]
    | none =>
      simp only [reduceCtorEq, false_and, true_and, false_or]
      rw [Except.bind_eq_ok]
      constructor
      · rintro ⟨postings, hpostings, h⟩
        obtain ⟨stored, hstore, hlt, hlt', rfl⟩ := mapM_transfer_eq_ok.mp hpostings
        split at h
        · simp [throw, throwThe, MonadExceptOf.throw] at h
        · rename_i journals hins
          obtain ⟨rfl, rfl⟩ := by simpa [pure, Except.pure] using h
          exact ⟨rfl, hlt, hlt', stored, journals, hstore, hins, rfl⟩
      · rintro ⟨rfl, hlt, hlt', stored, journals, hstore, hins, rfl⟩
        refine ⟨_, mapM_transfer_eq_ok.mpr ⟨stored, hstore, hlt, hlt', rfl⟩, ?_⟩
        rw [transferJournal] at hins
        simp only [hins]
        rfl

/-! ### Accounts -/

/-- The two ledger accounts a capture or refund moves money between. -/
structure LedgerAccounts where
  customer : LedgerAccountId
  clearing : LedgerAccountId
  deriving DecidableEq, Repr

lemma total_transferJournal (debitAccount creditAccount : LedgerAccountId) (amount : Amount)
    (currency : String) (reference : JournalReference) (key : JournalKey) (side : Side) :
    (transferJournal debitAccount creditAccount amount currency reference key).total side =
      amount.units := by
  cases side <;> simp [LedgerJournal.total, transferJournal]

/-- Both accounts exist. -/
def LedgerAccounts.Known (accounts : LedgerAccounts) (db : Db) : Prop :=
  accounts.customer < db.ledgerAccounts.length ∧ accounts.clearing < db.ledgerAccounts.length

instance (accounts : LedgerAccounts) (db : Db) : Decidable (accounts.Known db) :=
  inferInstanceAs (Decidable (_ ∧ _))

/-- A ledger account that the join on `wallets` and `ledger_accounts` finds: it is of an active
wallet of the account in the currency. -/
def LedgerAccount.paysFor (db : Db) (accountId currency : String) (a : LedgerAccount) : Bool :=
  (a.walletId.bind (db.wallets[·]?)).any fun w =>
    w.accountId = accountId && w.currency = currency && w.active

/-- The join with its `LIMIT 1`, which takes the rows in no particular order: the first. -/
def customerAccount (db : Db) (accountId currency : String) : Option LedgerAccountId :=
  db.ledgerAccounts.findIdx? (·.paysFor db accountId currency)

/-- The subquery for the clearing account of the mock provider. -/
def clearingAccount (db : Db) (currency : String) : Option LedgerAccountId :=
  (db.paymentProviderAccounts.find? fun a =>
    a.providerName = "mock" && a.currency = currency && a.active).map (·.ledgerAccountId)

/-- The query that `_accounts`, `_ledger_accounts` and `run_once` share. They differ in the currency
that they ask the clearing account in. -/
def accountsIn (db : Db) (paymentId : PaymentId) (currency : Payment → String) :
    Option LedgerAccounts := do
  let payment ← db.payments.get? paymentId
  let request ← db.paymentRequests.get? payment.paymentRequestId
  let customer ← customerAccount db request.accountId payment.currency
  let clearing ← clearingAccount db (currency payment)
  return ⟨customer, clearing⟩

/-- A row that the query may return: `LIMIT 1` picks any ledger account that the join finds. -/
def LedgerAccounts.joins (db : Db) (paymentId : PaymentId) (currency : Payment → String)
    (accounts : LedgerAccounts) : Bool :=
  (db.payments.get? paymentId).any fun payment =>
    (db.paymentRequests.get? payment.paymentRequestId).any fun request =>
      (db.ledgerAccounts[accounts.customer]?).any
          (·.paysFor db request.accountId payment.currency) &&
        clearingAccount db (currency payment) = some accounts.clearing

/-- No account has two ledger accounts of active wallets in one currency. -/
def Db.PaysOnce (db : Db) : Prop :=
  db.ledgerAccounts.Pairwise fun a b => ∀ accountId currency,
    a.paysFor db accountId currency = true → b.paysFor db accountId currency = false

lemma customerAccount_lt {db : Db} {accountId currency : String} {customer : LedgerAccountId}
    (h : customerAccount db accountId currency = some customer) :
    customer < db.ledgerAccounts.length :=
  (List.findIdx?_eq_some_iff_getElem.mp h).1

lemma mem_of_clearingAccount {db : Db} {currency : String} {clearing : LedgerAccountId}
    (h : clearingAccount db currency = some clearing) :
    ∃ a ∈ db.paymentProviderAccounts, a.ledgerAccountId = clearing := by
  obtain ⟨a, ha, rfl⟩ := Option.map_eq_some_iff.mp h
  exact ⟨a, List.mem_of_find?_eq_some ha, rfl⟩

/-- The customer's ledger account is looked up in the wallets and ledger accounts alone. -/
lemma customerAccount_congr {db db' : Db} (hwallets : db'.wallets = db.wallets)
    (haccounts : db'.ledgerAccounts = db.ledgerAccounts) :
    customerAccount db' = customerAccount db := by
  funext accountId currency
  simp only [customerAccount, LedgerAccount.paysFor, hwallets, haccounts]

/-- The clearing account is looked up in the provider accounts alone. -/
lemma clearingAccount_congr {db db' : Db}
    (hproviders : db'.paymentProviderAccounts = db.paymentProviderAccounts) :
    clearingAccount db' = clearingAccount db := by
  funext currency
  simp only [clearingAccount, hproviders]

lemma accountsIn_eq_some {db : Db} {p : PaymentId} {currency : Payment → String}
    {accounts : LedgerAccounts} :
    accountsIn db p currency = some accounts ↔
      ∃ payment request, db.payments.get? p = some payment ∧
        db.paymentRequests.get? payment.paymentRequestId = some request ∧
        customerAccount db request.accountId payment.currency = some accounts.customer ∧
        clearingAccount db (currency payment) = some accounts.clearing := by
  simp only [accountsIn, bind, Option.bind_eq_some_iff]
  constructor
  · rintro ⟨payment, hpayment, request, hrequest, customer, hcustomer, clearing, hclearing, h⟩
    obtain rfl := Option.some.inj h
    exact ⟨payment, request, hpayment, hrequest, hcustomer, hclearing⟩
  · rintro ⟨payment, request, hpayment, hrequest, hcustomer, hclearing⟩
    exact ⟨payment, hpayment, request, hrequest, _, hcustomer, _, hclearing, rfl⟩

lemma LedgerAccounts.joins_iff {db : Db} {p : PaymentId} {currency : Payment → String}
    {accounts : LedgerAccounts} :
    accounts.joins db p currency = true ↔
      ∃ payment request, db.payments.get? p = some payment ∧
        db.paymentRequests.get? payment.paymentRequestId = some request ∧
        (∃ a, db.ledgerAccounts[accounts.customer]? = some a ∧
          a.paysFor db request.accountId payment.currency = true) ∧
        clearingAccount db (currency payment) = some accounts.clearing := by
  simp only [joins, Option.any_eq_true, Bool.and_eq_true, decide_eq_true_eq]
  constructor
  · rintro ⟨payment, hpayment, request, hrequest, ha, hclearing⟩
    exact ⟨payment, request, hpayment, hrequest, ha, hclearing⟩
  · rintro ⟨payment, request, hpayment, hrequest, ha, hclearing⟩
    exact ⟨payment, hpayment, request, hrequest, ha, hclearing⟩

/-- Where there is one row at most, that is the row taken. -/
lemma Db.PaysOnce.accountsIn {db : Db} (h : db.PaysOnce) {p : PaymentId}
    {currency : Payment → String} {accounts : LedgerAccounts}
    (hjoins : accounts.joins db p currency = true) :
    accountsIn db p currency = some accounts := by
  obtain ⟨payment, request, hpayment, hrequest, ⟨a, ha, hpays⟩, hclearing⟩ :=
    LedgerAccounts.joins_iff.mp hjoins
  refine accountsIn_eq_some.mpr ⟨payment, request, hpayment, hrequest, ?_, hclearing⟩
  obtain ⟨hlt, rfl⟩ := List.getElem?_eq_some_iff.mp ha
  refine List.findIdx?_eq_some_iff_getElem.mpr ⟨hlt, hpays, fun i hi hpays' => ?_⟩
  have hfalse := List.pairwise_iff_getElem.mp h i _ (hi.trans hlt) hlt hi _ _ hpays'
  rw [hfalse] at hpays
  cases hpays

/-- `_accounts` and `_ledger_accounts` -/
def ledgerAccounts (db : Db) (paymentId : PaymentId) : Option LedgerAccounts :=
  accountsIn db paymentId (·.currency)

end AgentPay
