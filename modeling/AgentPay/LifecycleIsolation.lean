import AgentPay.Isolation
import AgentPay.Lifecycle

/-!
# Lifecycle operations of an account

`capture`, `void` and `refund` of a payment of the account, run on two databases that are alike for
it, ask the provider for the same and go on alike from its answer.
-/

namespace AgentPay

open Support

variable {A : String} {σ : Renaming} {s s' t t' : Db}

namespace Alike

/-! ### Operations and transactions -/

/-- An operation row by its key. -/
lemma find?_operations (h : Alike A σ s s') {k : OperationKey}
    (hk : s.accountOf (.payment k.paymentId) = some A) :
    s'.providerOperations.find? (k.rename (σ .payments)) =
      (s.providerOperations.find? k).map fun x =>
        (σ .operations x.1, TableName.rename σ .operations x.2) := by
  refine find?_map (h.idOf?_operations hk) fun i o ho hkey => ?_
  obtain rfl := Option.some.inj hkey
  have hacc : s.accountOf (.payment o.paymentId) = some A := by
    rwa [← h.refs.filed .operations o (Table.mem_of_get? ho)]
  have hmem : (o, i) ∈ s.part A .operations := Db.mem_part.mpr ⟨ho, hacc⟩
  exact row (h.mem (by decide) hmem)

/-- `create_provider_operation` -/
lemma createProviderOperation (h : Alike A σ s s') {p : PaymentId}
    (hp : s.accountOf (.payment p) = some A) (type : OperationType) {k : OperationKey}
    (hk : k.paymentId = p) :
    Twin A σ s s' (fun o o' _ => o' = σ .operations o)
      (PaymentRepository.createProviderOperation s p type k)
      (PaymentRepository.createProviderOperation s' (σ .payments p) type
        (k.rename (σ .payments))) := by
  have hkey : (PaymentRepository.newOperation p type k).key = some k := rfl
  have hkey' : (PaymentRepository.newOperation (σ .payments p) type
    (k.rename (σ .payments))).key = some (k.rename (σ .payments)) := rfl
  have hacc : s.accountOf (.payment k.paymentId) = some A := by rwa [hk]
  simp only [PaymentRepository.createProviderOperation]
  rcases exists_insert? _ _ (h.idOf?_operations hacc) hkey hkey' with
    ⟨hU, hU'⟩ | ⟨U, U', hU, hU', hrows, hrows'⟩
  · simp only [hU, hU', h.find?_operations hacc]
    cases hfound : s.providerOperations.find? k with
    | none => exact .raises _
    | some x =>
      obtain ⟨o, existing⟩ := x
      obtain ⟨hrow, hkey⟩ := Table.find?_eq_some.mp hfound
      have hfiled := h.refs.filed .operations existing (Table.mem_of_get? hrow)
      have hexisting : existing.paymentId = p := by
        rw [← hk, ← Option.some.inj hkey]
        exact hfiled.symm
      have hexisting' : (TableName.rename σ .operations existing).paymentId = σ .payments p :=
        congrArg (σ .payments) hexisting
      have hset := h.setProviderOperation hp o
      simp only [Option.map_some, hexisting, hexisting', ne_eq, not_true_eq_false, false_or]
      rw [show (TableName.rename σ .operations existing).operationType = existing.operationType
        from rfl]
      by_cases htype : existing.operationType = type
      · simp only [htype, not_true_eq_false, if_false]
        exact .returns hset rfl
      · simp only [htype, not_false_eq_true, if_true]
        exact .raises _
  · simp only [hU, hU']
    have hfirst := h.append_rename (u := .operations) rfl (s.writes_operations hrows)
      (s'.writes_operations hrows') hp hk
    have hset := hfirst.alike.setProviderOperation (hfirst.paymentAccount h.refs hp)
      s.providerOperations.nextId
    rw [show σ .operations s.providerOperations.nextId = s'.providerOperations.nextId from
      h.next .operations rfl 0] at hset
    exact .returns (hfirst.trans hset) (h.next .operations rfl 0).symm

/-- `_create_transaction`; the row is one of the payment. -/
lemma createTransaction (h : Alike A σ s s') {p : PaymentId}
    (hp : s.accountOf (.payment p) = some A) (type : TransactionType) (amount : Decimal)
    (currency : String) {k : TransactionKey} (hk : k.paymentId = p) (status : TransactionStatus) :
    Twin A σ s s'
      (fun i i' t => i' = σ .transactions i ∧ ∃ row, (row, i) ∈ t.part A .transactions)
      (PaymentLifecycle.createTransaction s p type amount currency k status)
      (PaymentLifecycle.createTransaction s' (σ .payments p) type amount currency
        (k.rename (σ .payments)) status) := by
  have hacc : s.accountOf (.payment k.paymentId) = some A := by rwa [hk]
  simp only [PaymentLifecycle.createTransaction, h.idOf?_transactions hacc]
  cases hid : s.transactions.idOf? k with
  | some i =>
    obtain ⟨row, hrow, hkey⟩ := Table.idOf?_get? hid
    refine .returns (.refl h) ⟨rfl, row, Db.mem_part.mpr ⟨hrow, ?_⟩⟩
    obtain rfl := Option.some.inj hkey
    have hfiled := h.refs.filed .transactions row (Table.mem_of_get? hrow)
    rwa [hfiled] at hacc
  | none =>
    simp only [Option.map_none]
    cases Amount.store amount with
    | error e => exact .raises e
    | ok stored =>
      have hkey : (PaymentLifecycle.newTransaction p type stored currency k status).key = some k :=
        rfl
      have hkey' : (PaymentLifecycle.newTransaction (σ .payments p) type stored currency
        (k.rename (σ .payments)) status).key = some (k.rename (σ .payments)) := rfl
      rcases exists_insert? _ _ (h.idOf?_transactions hacc) hkey hkey' with
        ⟨hU, hU'⟩ | ⟨U, U', hU, hU', hrows, hrows'⟩
      · simp only [hU, hU', bind, Except.bind]
        exact .raises _
      · simp only [hU, hU', bind, Except.bind]
        have hfirst := h.append_rename (u := .transactions) rfl (s.writes_transactions hrows)
          (s'.writes_transactions hrows') hp hk
        have hget := Table.get?_of_rows_append hrows s.transactions.nextId
        rw [if_pos rfl] at hget
        refine .returns hfirst ⟨(h.next .transactions rfl 0).symm, _, Db.mem_part.mpr ⟨hget, ?_⟩⟩
        exact hfirst.paymentAccount h.refs hp

lemma setTransactionStatus (h : Alike A σ s s') {i : TransactionId} {row : Transaction}
    (hi : (row, i) ∈ s.part A .transactions) (status : TransactionStatus) :
    After A σ s s' (PaymentLifecycle.setTransactionStatus s i status)
      (PaymentLifecycle.setTransactionStatus s' (σ .transactions i) status) :=
  h.modify (u := .transactions) rfl (by decide) (s.writes_transactions rfl)
    (s'.writes_transactions rfl) hi (fun _ => rfl) (fun _ => rfl) (fun _ h => h) (fun _ h => h)
    fun _ => rfl

/-- The sums over the transactions of a payment. -/
lemma postedSum (h : Alike A σ s s') {p : PaymentId} (hp : s.accountOf (.payment p) = some A)
    (type : TransactionType) :
    PaymentLifecycle.postedSum s' (σ .payments p) type = PaymentLifecycle.postedSum s p type := by
  have hp' : s'.accountOf (.payment (σ .payments p)) = some A := h.accountOf (o := .payment p) hp
  have hsum : ∀ (db : Db) (q : PaymentId), db.accountOf (.payment q) = some A →
      PaymentLifecycle.postedSum db q type = ((db.part A .transactions).map fun x =>
        if x.1.paymentId = q ∧ x.1.type = type ∧ x.1.status = .posted then x.1.amount.units
        else 0).sum := by
    intro db q hq
    refine sum_eq_part (l := db.rows .transactions) fun r _ hown => ?_
    have hne : r.paymentId ≠ q := by
      rintro rfl
      exact of_decide_eq_false hown hq
    simp [hne]
  rw [hsum s' _ hp', hsum s p hp, h.part .transactions (by decide), List.map_map]
  congr 1
  apply List.map_congr_left
  intro x hx
  have hinj := h.payment_inj (Db.mem_part.mp hx).2 hp
  simp only [Function.comp_apply, TableName.renameEntry, TableName.rename, hinj]

/-! ### Journals -/

end Alike

/-- The customer's ledger account is of a wallet of the account, and the clearing account one of a
provider. -/
structure LedgerAccounts.Of (accounts : LedgerAccounts) (account : String) (db : Db) : Prop where
  customer : ∃ row, (row, accounts.customer) ∈ db.part account .ledgerAccounts
  clearing : ∃ a ∈ db.paymentProviderAccounts, a.ledgerAccountId = accounts.clearing

namespace LedgerAccounts.Of

variable {accounts : LedgerAccounts}

lemma known (h : accounts.Of A s) (hrefs : s.Refs) : accounts.Known s := by
  obtain ⟨row, hrow⟩ := h.customer
  obtain ⟨a, ha, heq⟩ := h.clearing
  refine ⟨(List.getElem?_eq_some_iff.mp (Alike.row hrow)).1, ?_⟩
  rw [← heq]
  exact hrefs.clearing a ha

lemma alike (h : accounts.Of A s) (halike : Alike A σ s s') : accounts.Of A s' := by
  obtain ⟨row, hrow⟩ := h.customer
  refine ⟨⟨row, ?_⟩, ?_⟩
  · rw [halike.part_of_not_grown rfl]
    exact hrow
  · rw [halike.providerAccounts]
    exact h.clearing

lemma after (h : accounts.Of A s) (hs : s.Refs) (hafter : After A σ s s' t t') :
    accounts.Of A t := by
  obtain ⟨row, hrow⟩ := h.customer
  have hgrows := hafter.confined.grows
  refine ⟨⟨row, ?_⟩, ?_⟩
  · rw [hgrows.part_of_eq (u := .ledgerAccounts) hs A hgrows.ledgerAccounts]
    exact hrow
  · rw [hgrows.providerAccounts]
    exact h.clearing

end LedgerAccounts.Of

/-- The rows of a transfer do not depend on the database that knows its accounts. -/
lemma mapM_transfer_congr {debit credit : LedgerAccountId} (hd : debit < s.ledgerAccounts.length)
    (hd' : debit < s'.ledgerAccounts.length) (hc : credit < s.ledgerAccounts.length)
    (hc' : credit < s'.ledgerAccounts.length) (amount : Decimal) (currency : String) :
    (transfer debit credit amount currency).mapM (storePosting s') =
      (transfer debit credit amount currency).mapM (storePosting s) := by
  simp only [transfer, List.mapM_cons, List.mapM_nil, storePosting, hd, hd', hc, hc', if_true]

namespace Alike

/-- `post_journal` of a transfer. -/
lemma postJournal (h : Alike A σ s s') {k : JournalKey}
    (hk : s.accountOf (.payment k.paymentId) = some A) {debit credit : LedgerAccountId}
    (hd : debit < s.ledgerAccounts.length) (hd' : debit < s'.ledgerAccounts.length)
    (hc : credit < s.ledgerAccounts.length) (hc' : credit < s'.ledgerAccounts.length)
    (amount : Decimal) (currency currency' : String) (reference : JournalReference) :
    Twin A σ s s' (fun _ _ _ => True)
      (AgentPay.postJournal s currency reference k (transfer debit credit amount currency'))
      (AgentPay.postJournal s' currency (reference.rename (σ .transactions) (σ .payments))
        (k.rename (σ .payments)) (transfer debit credit amount currency')) := by
  simp only [AgentPay.postJournal, h.idOf?_journals hk, mapM_transfer_congr hd hd' hc hc']
  split_ifs
  · exact .raises _
  · exact .raises _
  cases s.ledgerJournals.idOf? k with
  | some i => exact .returns (.refl h) trivial
  | none =>
    simp only [Option.map_none]
    cases (transfer debit credit amount currency').mapM (storePosting s) with
    | error e => exact .raises e
    | ok stored =>
      have hkey : LedgerJournal.key ⟨currency, reference, k, stored⟩ = some k := rfl
      have hkey' : LedgerJournal.key ⟨currency, reference.rename (σ .transactions) (σ .payments),
        k.rename (σ .payments), stored⟩ = some (k.rename (σ .payments)) := rfl
      rcases exists_insert? _ _ (h.idOf?_journals hk) hkey hkey' with
        ⟨hU, hU'⟩ | ⟨U, U', hU, hU', hrows, hrows'⟩
      · simp only [hU, hU', bind, Except.bind]
        exact .raises _
      · simp only [hU, hU', bind, Except.bind]
        refine .returns ?_ trivial
        exact h.append_rename (u := .journals) rfl (s.writes_journals hrows)
          (s'.writes_journals hrows') hk trivial

end Alike

/-! ### Ledger accounts -/

namespace Alike

lemma customerAccount (h : Alike A σ s s') (currency : String) :
    AgentPay.customerAccount s' A currency = AgentPay.customerAccount s A currency ∧
      ∀ customer ∈ AgentPay.customerAccount s A currency,
        ∃ row, (row, customer) ∈ s.part A .ledgerAccounts := by
  have hof : ∀ db : Db, ∀ a ∈ db.rows .ledgerAccounts,
      LedgerAccount.paysFor db A currency a = true →
        db.accountOf (TableName.ledgerAccounts.owner a) = some A := by
    intro db a _ ha
    obtain ⟨wallet, hwallet, hpays⟩ := (Option.any_eq_true ..).mp ha
    simp only [Bool.and_eq_true, decide_eq_true_eq] at hpays
    exact Option.map_eq_some_iff.mpr ⟨wallet, hwallet, hpays.1.1⟩
  -- the wallet of a ledger account of the account is the same row of both databases
  have hsame : ∀ x ∈ s.part A .ledgerAccounts,
      LedgerAccount.paysFor s' A currency (TableName.ledgerAccounts.rename σ x.1) =
        LedgerAccount.paysFor s A currency x.1 := by
    intro x hx
    obtain ⟨i, wallet, hi, hwallet, -, hwallet'⟩ := h.wallet (Db.mem_part.mp hx).2
    rw [show TableName.ledgerAccounts.rename σ x.1 = x.1 from rfl, LedgerAccount.paysFor,
      LedgerAccount.paysFor, hi, Option.bind_some, Option.bind_some, hwallet, hwallet']
  have haccounts := h.findIdx? (t := .ledgerAccounts) (by decide) (hof s) (hof s') hsame
  rw [show σ .ledgerAccounts = id from funext (h.fixed .ledgerAccounts rfl), Option.map_id_fun,
    id] at haccounts
  refine ⟨haccounts, fun customer hcustomer => ?_⟩
  obtain ⟨account, haccount, -⟩ := found (t := .ledgerAccounts) (hof s) hcustomer
  exact ⟨account, haccount⟩

/-- `_accounts` -/
lemma ledgerAccounts (h : Alike A σ s s') {p : PaymentId}
    (hp : s.accountOf (.payment p) = some A) :
    AgentPay.ledgerAccounts s' (σ .payments p) = AgentPay.ledgerAccounts s p ∧
      ∀ accounts, AgentPay.ledgerAccounts s p = some accounts → accounts.Of A s := by
  obtain ⟨payment, hpayment, hreq, hpayment'⟩ := h.get?_payment hp
  obtain ⟨request, hrequest, hacc, hrequest'⟩ := h.get?_request hreq
  obtain ⟨hcustomer, hmem⟩ := h.customerAccount payment.currency
  have hclearing := clearingAccount_congr h.providerAccounts
  have hsome : ∀ accounts, AgentPay.ledgerAccounts s' (σ .payments p) = some accounts ↔
      AgentPay.ledgerAccounts s p = some accounts := by
    intro accounts
    simp only [AgentPay.ledgerAccounts, accountsIn_eq_some, hpayment, hpayment', Option.some.injEq,
      exists_and_left, exists_eq_left', TableName.rename, hrequest, hrequest', hacc, hcustomer,
      hclearing]
  refine ⟨Option.ext hsome, fun accounts haccounts => ?_⟩
  obtain ⟨payment₁, request₁, h₁, h₂, hc, hfound⟩ := accountsIn_eq_some.mp haccounts
  obtain rfl := Option.some.inj (hpayment.symm.trans h₁)
  obtain rfl := Option.some.inj (hrequest.symm.trans h₂)
  rw [hacc] at hc
  exact ⟨hmem _ hc, mem_of_clearingAccount hfound⟩

end Alike

/-! ### Operations -/

/-- Two runs of an operation up to the provider: they raise the same, or return the same, or ask the
provider for the same and go on alike from its answer. -/
inductive Progress.Twin (A : String) (σ : Renaming) (s s' : Db) :
    Except Error Progress → Except Error Progress → Prop where
  | raises (e : Error) : Twin A σ s s' (.error e) (.error e)
  | returned (status : PaymentStatus) {t t' : Db} (h : After A σ s s' t t') :
      Twin A σ s s' (.ok (.returned status t)) (.ok (.returned status t'))
  | calling (call call' : ProviderCall)
      {answered answered' : ProviderOutcome → Except Error (PaymentStatus × Db)}
      (h : ∀ outcome, AgentPay.Twin A σ s s' (fun a a' _ => a' = a) (answered outcome)
        (answered' outcome)) :
      Twin A σ s s' (.ok (.calling call answered)) (.ok (.calling call' answered'))

/-- `except ValueError` around what follows the provider's answer. -/
lemma Twin.onValueError {α : Type} {R : α → α → Db → Prop} {x x' : Except Error (α × Db)}
    (h : Twin A σ s s' R x x') :
    Twin A σ s s' R (conflictOnValueError x) (conflictOnValueError x') := by
  cases h with
  | raises e => cases e <;> exact .raises _
  | returns h ha => exact .returns h ha

namespace Progress.Twin

lemma after {x x' : Except Error Progress} (h : After A σ s s' t t')
    (hx : Progress.Twin A σ t t' x x') : Progress.Twin A σ s s' x x' := by
  cases hx with
  | raises e => exact .raises e
  | returned status h' => exact .returned status (h.trans h')
  | calling call call' h' => exact .calling call call' fun outcome => (h' outcome).after h

lemma bind {α : Type} {R : α → α → Db → Prop} {x x' : Except Error (α × Db)}
    {f f' : α × Db → Except Error Progress} (h : AgentPay.Twin A σ s s' R x x')
    (hf : ∀ a a' t t', After A σ s s' t t' → R a a' t →
      Progress.Twin A σ t t' (f (a, t)) (f' (a', t'))) :
    Progress.Twin A σ s s' (x >>= f) (x' >>= f') := by
  cases h with
  | raises e => exact .raises e
  | returns h ha => exact (hf _ _ _ _ h ha).after h

/-- `except ValueError` around an operation. -/
lemma onValueError {x x' : Except Error Progress} (h : Progress.Twin A σ s s' x x') :
    Progress.Twin A σ s s' (conflictOnValueError x) (conflictOnValueError x') := by
  cases h with
  | raises e => cases e <;> exact .raises _
  | returned status h => exact .returned status h
  | calling call call' h => exact .calling call call' h

/-- The whole of an operation, the provider's answer given. -/
lemma answer {x x' : Except Error Progress} (h : Progress.Twin A σ s s' x x')
    (outcome : ProviderOutcome) :
    AgentPay.Twin A σ s s' (fun a a' _ => a' = a)
      (x >>= fun progress => conflictOnValueError (progress.answer outcome))
      (x' >>= fun progress => conflictOnValueError (progress.answer outcome)) := by
  cases h with
  | raises e => exact .raises e
  | returned status h => exact .returns h rfl
  | calling call call' h => exact (h outcome).onValueError

end Progress.Twin

namespace Alike

open PaymentLifecycle

lemma captureAnswered (h : Alike A σ s s') {p : PaymentId}
    (hp : s.accountOf (.payment p) = some A) (amount : Decimal) (currency : String)
    {accounts : LedgerAccounts} (haccounts : accounts.Of A s) (outcome : ProviderOutcome) :
    Twin A σ s s' (fun a a' _ => a' = a)
      (PaymentLifecycle.captureAnswered s p amount currency accounts outcome)
      (PaymentLifecycle.captureAnswered s' (σ .payments p) amount currency accounts outcome) := by
  cases outcome with
  | unknown => exact .returns (h.updateStatus hp _ _) rfl
  | failed =>
    have hstatus := h.updateStatus hp .failed none
    refine Twin.after hstatus ?_
    refine (hstatus.alike.createTransaction (hstatus.paymentAccount h.refs hp) .capture amount
      currency (k := .captureFailed p) rfl .failed).bind fun i i' t t' ht _ => ?_
    exact .returns (.refl ht.alike) rfl
  | succeeded =>
    refine (h.createTransaction hp .capture amount currency (k := .capture p) rfl .posted).bind
      fun i i' t t' ht hi => ?_
    obtain ⟨rfl, -⟩ := hi
    have hpt := ht.paymentAccount h.refs hp
    have hof := haccounts.after h.refs ht
    obtain ⟨hc, hcl⟩ := hof.known ht.alike.refs
    obtain ⟨hc', hcl'⟩ := (hof.alike ht.alike).known ht.alike.refs'
    refine (ht.alike.postJournal (k := .capture p) hpt hc hc' hcl hcl' amount currency currency
      (.transaction i)).bind fun _ _ u u' hu _ => ?_
    exact .returns (hu.alike.updateStatus (hu.paymentAccount ht.alike.refs hpt) _ _) rfl

/-- `capture` -/
lemma capture (h : Alike A σ s s') {p : PaymentId} (hp : s.accountOf (.payment p) = some A)
    (amount : Decimal) (currency : String) {accounts : LedgerAccounts}
    (haccounts : accounts.Of A s) :
    Progress.Twin A σ s s' (PaymentLifecycle.capture s p amount currency accounts)
      (PaymentLifecycle.capture s' (σ .payments p) amount currency accounts) := by
  obtain ⟨payment, hpayment, -, hpayment'⟩ := h.get?_payment hp
  have hvalidate : validateOperationAmount amount currency (TableName.rename σ .payments payment) =
    validateOperationAmount amount currency payment := rfl
  have hstatus : (TableName.rename σ .payments payment).status = payment.status := rfl
  simp only [PaymentLifecycle.capture, hpayment, hpayment', hvalidate, hstatus]
  by_cases hsucceeded : payment.status = .succeeded
  · simp only [hsucceeded, if_true]
    cases validateOperationAmount amount currency payment with
    | error e => exact .raises e
    | ok c => exact .returned _ (.refl h)
  simp only [hsucceeded, if_false]
  split_ifs
  · exact .raises _
  cases validateOperationAmount amount currency payment with
  | error e => exact .raises e
  | ok c =>
    refine Progress.Twin.bind (h.createProviderOperation hp .capture (k := .capture p) rfl)
      fun o o' t t' ht _ => ?_
    cases PaymentLifecycle.amountMinor amount with
    | error e => exact .raises e
    | ok minor =>
      exact .calling _ _ fun outcome => ht.alike.captureAnswered (ht.paymentAccount h.refs hp)
        amount c (haccounts.after h.refs ht) outcome

lemma voidAnswered (h : Alike A σ s s') {p : PaymentId} (hp : s.accountOf (.payment p) = some A)
    (amount : Decimal) (currency : String) (outcome : ProviderOutcome) :
    Twin A σ s s' (fun a a' _ => a' = a)
      (PaymentLifecycle.voidAnswered s p amount currency outcome)
      (PaymentLifecycle.voidAnswered s' (σ .payments p) amount currency outcome) := by
  cases outcome with
  | unknown => exact .returns (h.updateStatus hp _ _) rfl
  | failed =>
    have hstatus := h.updateStatus hp .voidFailed none
    refine Twin.after hstatus ?_
    refine (hstatus.alike.createTransaction (hstatus.paymentAccount h.refs hp) .void amount
      currency (k := .voidFailed p) rfl .failed).bind fun i i' t t' ht _ => ?_
    exact .returns (.refl ht.alike) rfl
  | succeeded =>
    refine (h.createTransaction hp .void amount currency (k := .void p) rfl .posted).bind
      fun i i' t t' ht hi => ?_
    exact .returns (ht.alike.updateStatus (ht.paymentAccount h.refs hp) _ _) rfl

/-- `void` -/
lemma void (h : Alike A σ s s') {p : PaymentId} (hp : s.accountOf (.payment p) = some A)
    (amount : Decimal) (currency : String) :
    Progress.Twin A σ s s' (PaymentLifecycle.void s p amount currency)
      (PaymentLifecycle.void s' (σ .payments p) amount currency) := by
  obtain ⟨payment, hpayment, -, hpayment'⟩ := h.get?_payment hp
  have hvalidate : validateOperationAmount amount currency (TableName.rename σ .payments payment) =
    validateOperationAmount amount currency payment := rfl
  have hstatus : (TableName.rename σ .payments payment).status = payment.status := rfl
  simp only [PaymentLifecycle.void, hpayment, hpayment', hvalidate, hstatus]
  by_cases hvoided : payment.status = .voided
  · simp only [hvoided, if_true]
    cases validateOperationAmount amount currency payment with
    | error e => exact .raises e
    | ok c => exact .returned _ (.refl h)
  simp only [hvoided, if_false]
  split_ifs
  · exact .raises _
  cases validateOperationAmount amount currency payment with
  | error e => exact .raises e
  | ok c =>
    have hrequested := h.updateStatus hp .voidRequested none
    have hpr := hrequested.paymentAccount h.refs hp
    refine Progress.Twin.after hrequested ?_
    refine Progress.Twin.bind
      (hrequested.alike.createProviderOperation hpr .void (k := .void p) rfl)
      fun o o' t t' ht _ => ?_
    cases PaymentLifecycle.amountMinor amount with
    | error e => exact .raises e
    | ok minor =>
      exact .calling _ _ fun outcome => ht.alike.voidAnswered
        (ht.paymentAccount hrequested.alike.refs hpr) amount c outcome

lemma refundAnswered (h : Alike A σ s s') {p : PaymentId}
    (hp : s.accountOf (.payment p) = some A) {i : TransactionId} {row : Transaction}
    (hi : (row, i) ∈ s.part A .transactions) (amount : Decimal) (currency rawCurrency : String)
    {accounts : LedgerAccounts} (haccounts : accounts.Of A s) (captured refunded : ℕ)
    (outcome : ProviderOutcome) :
    Twin A σ s s' (fun a a' _ => a' = a)
      (PaymentLifecycle.refundAnswered s p i amount currency rawCurrency accounts captured refunded
        outcome)
      (PaymentLifecycle.refundAnswered s' (σ .payments p) (σ .transactions i) amount currency
        rawCurrency accounts captured refunded outcome) := by
  cases outcome with
  | unknown => exact .returns (h.updateStatus hp _ _) rfl
  | failed =>
    have hfailed := h.setTransactionStatus hi .failed
    have hp' := hfailed.paymentAccount h.refs hp
    exact .returns (hfailed.trans (hfailed.alike.updateStatus hp' _ _)) rfl
  | succeeded =>
    have hposted := h.setTransactionStatus hi .posted
    have hp' := hposted.paymentAccount h.refs hp
    have hof := haccounts.after h.refs hposted
    obtain ⟨hc, hcl⟩ := hof.known hposted.alike.refs
    obtain ⟨hc', hcl'⟩ := (hof.alike hposted.alike).known hposted.alike.refs'
    refine Twin.after hposted ?_
    refine (hposted.alike.postJournal (k := .refund p amount rawCurrency) hp' hcl hcl' hc hc' amount
      currency currency (.transaction i)).bind fun _ _ u u' hu _ => ?_
    exact .returns (hu.alike.updateStatus (hu.paymentAccount hposted.alike.refs hp') _ _) rfl

/-- A transaction row by its key. -/
lemma find?_transactions (h : Alike A σ s s') {k : TransactionKey}
    (hk : s.accountOf (.payment k.paymentId) = some A) :
    s'.transactions.find? (k.rename (σ .payments)) =
      (s.transactions.find? k).map fun x =>
        (σ .transactions x.1, TableName.rename σ .transactions x.2) := by
  refine find?_map (h.idOf?_transactions hk) fun i row hrow hkey => ?_
  obtain rfl := Option.some.inj hkey
  have hacc : s.accountOf (.payment row.paymentId) = some A := by
    rwa [← h.refs.filed .transactions row (Table.mem_of_get? hrow)]
  have hmem : (row, i) ∈ s.part A .transactions := Db.mem_part.mpr ⟨hrow, hacc⟩
  exact Alike.row (h.mem (by decide) hmem)

/-- `refund` -/
lemma refund (h : Alike A σ s s') {p : PaymentId} (hp : s.accountOf (.payment p) = some A)
    (amount : Decimal) (rawCurrency : String) {accounts : LedgerAccounts}
    (haccounts : accounts.Of A s) :
    Progress.Twin A σ s s' (PaymentLifecycle.refund s p amount rawCurrency accounts)
      (PaymentLifecycle.refund s' (σ .payments p) amount rawCurrency accounts) := by
  obtain ⟨payment, hpayment, -, hpayment'⟩ := h.get?_payment hp
  have hvalidate : validateRefundAmount amount rawCurrency (TableName.rename σ .payments payment) =
    validateRefundAmount amount rawCurrency payment := rfl
  have hstatus : (TableName.rename σ .payments payment).status = payment.status := rfl
  simp only [PaymentLifecycle.refund, hpayment, hpayment', hvalidate, hstatus, h.postedSum hp]
  by_cases hcaptured : payment.status ∉ [.succeeded, .refundFailed, .refunded]
  · rw [if_pos hcaptured, if_pos hcaptured]
    exact .raises _
  rw [if_neg hcaptured, if_neg hcaptured]
  cases validateRefundAmount amount rawCurrency payment with
  | error e => exact .raises e
  | ok c =>
    have hfound : ((s'.transactions.find? (.refund (σ .payments p) amount c)).bind fun x =>
        refundReplayStatus x.2.status (PaymentLifecycle.postedSum s p .capture -
          PaymentLifecycle.postedSum s p .refund)) =
        (s.transactions.find? (.refund p amount c)).bind fun x =>
          refundReplayStatus x.2.status (PaymentLifecycle.postedSum s p .capture -
            PaymentLifecycle.postedSum s p .refund) := by
      rw [show TransactionKey.refund (σ .payments p) amount c =
        (TransactionKey.refund p amount c).rename (σ .payments) from rfl,
        h.find?_transactions (k := .refund p amount c) hp]
      cases s.transactions.find? (.refund p amount c) <;> rfl
    simp only [bind, Except.bind, hfound]
    split
    · exact .returned _ (.refl h)
    split_ifs
    · exact .raises _
    have hprocessing := h.updateStatus hp .refundProcessing none
    have hpr := hprocessing.paymentAccount h.refs hp
    refine Progress.Twin.after hprocessing ?_
    refine Progress.Twin.bind (hprocessing.alike.createProviderOperation hpr .refund
      (k := .refund p amount rawCurrency) rfl) fun o o' t t' ht _ => ?_
    have hpt := ht.paymentAccount hprocessing.alike.refs hpr
    refine Progress.Twin.bind (ht.alike.createTransaction hpt .refund amount c
      (k := .refund p amount c) rfl .pending) fun i i' u u' hu hi => ?_
    obtain ⟨rfl, row, hi⟩ := hi
    cases PaymentLifecycle.amountMinor amount with
    | error e => exact .raises e
    | ok minor =>
      have hof := (haccounts.after h.refs hprocessing).after hprocessing.alike.refs ht
      exact .calling _ _ fun outcome => hu.alike.refundAnswered
        (hu.paymentAccount ht.alike.refs hpt) hi amount c rawCurrency (hof.after ht.alike.refs hu)
        _ _ outcome

/-- `_run` with the provider's answer. -/
lemma lifecycleRun (h : Alike A σ s s') {p : PaymentId} (hp : s.accountOf (.payment p) = some A)
    (a : LifecycleAmount) (operation : LifecycleOperation) :
    Progress.Twin A σ s s' (AgentPay.lifecycleRun s p a operation)
      (AgentPay.lifecycleRun s' (σ .payments p) a operation) := by
  obtain ⟨hsame, hof⟩ := h.ledgerAccounts hp
  simp only [AgentPay.lifecycleRun, hsame]
  cases haccounts : AgentPay.ledgerAccounts s p with
  | none => exact .raises _
  | some accounts =>
    have hof := hof accounts haccounts
    cases operation with
    | capture => exact (h.capture hp a.amount (upper a.currency) hof).onValueError
    | void => exact (h.void hp a.amount (upper a.currency)).onValueError
    | refund => exact (h.refund hp a.amount (upper a.currency) hof).onValueError

end Alike

end AgentPay
