import AgentPay.Support.Part
import AgentPay.PaymentView

/-!
# Whose rows they are

Every row of the tables below belongs to an account, by its own column or through the row it refers
to. `Db.part` is what an account has of a table. A write to a row of one account leaves what the
others have of every table as it is.
-/

namespace AgentPay

open Support

/-! ### Tables -/

/-- The tables whose rows belong to accounts. -/
inductive TableName where
  | policies
  | policyVersions
  | wallets
  | ledgerAccounts
  | budgets
  | evidence
  | requests
  | payments
  | reservations
  | approvals
  | operations
  | transactions
  | journals
  deriving DecidableEq, Repr

/-- What a row names: its account, or a row that has one. -/
inductive Owner where
  | account (accountId : String)
  | policy (id : PolicyId)
  | wallet (id : Option ℕ)
  | request (id : RequestId)
  | payment (id : PaymentId)
  deriving DecidableEq, Repr

namespace TableName

/-- The rows of a table. -/
abbrev Row : TableName → Type
  | policies       => Policy
  | policyVersions => PolicyVersion
  | wallets        => Wallet
  | ledgerAccounts => LedgerAccount
  | budgets        => Budget
  | evidence       => AuthorizationEvidence
  | requests       => PaymentRequest
  | payments       => Payment
  | reservations   => BudgetReservation
  | approvals      => Approval
  | operations     => ProviderOperation
  | transactions   => Transaction
  | journals       => LedgerJournal

/-- The column that leads to a row's account. -/
def owner : (t : TableName) → t.Row → Owner
  | policies, r       => .account r.accountId
  | policyVersions, r => .policy r.policyId
  | wallets, r        => .account r.accountId
  | ledgerAccounts, r => .wallet r.walletId
  | budgets, r        => .account r.accountId
  | evidence, r       => .account r.accountId
  | requests, r       => .account r.accountId
  | payments, r       => .request r.paymentRequestId
  | reservations, r   => .request r.paymentRequestId
  | approvals, r      => .request r.paymentRequestId
  | operations, r     => .payment r.paymentId
  | transactions, r   => .payment r.paymentId
  | journals, r       => .payment r.idempotencyKey.paymentId

/-- A row is filed under the payment of its key. -/
def Filed : (t : TableName) → t.Row → Prop
  | operations, r   => r.idempotencyKey.paymentId = r.paymentId
  | transactions, r => r.idempotencyKey.paymentId = r.paymentId
  | _, _            => True

/-- The tables that operators fill and no request writes. -/
def Fixed : TableName → Bool
  | policies | policyVersions | wallets | ledgerAccounts => true
  | _                                                    => false

end TableName

namespace Db

/-- The rows of a table. -/
def rows (db : Db) : (t : TableName) → List t.Row
  | .policies       => db.policies
  | .policyVersions => db.policyVersions
  | .wallets        => db.wallets
  | .ledgerAccounts => db.ledgerAccounts
  | .budgets        => db.budgets
  | .evidence       => db.authorizationEvidence
  | .requests       => db.paymentRequests.rows
  | .payments       => db.payments.rows
  | .reservations   => db.budgetReservations.rows
  | .approvals      => db.approvals
  | .operations     => db.providerOperations.rows
  | .transactions   => db.transactions.rows
  | .journals       => db.ledgerJournals.rows

/-- The account of a request. -/
def requestAccount (db : Db) (r : RequestId) : Option String :=
  (db.paymentRequests.get? r).map (·.accountId)

/-- The account that an owner column leads to. -/
def accountOf (db : Db) : Owner → Option String
  | .account a => some a
  | .policy p  => (db.policies[p]?).map (·.accountId)
  | .wallet w  => (w.bind (db.wallets[·]?)).map (·.accountId)
  | .request r => db.requestAccount r
  | .payment p => (db.payments.get? p).bind fun x => db.requestAccount x.paymentRequestId

/-- What an account has of a table: its rows, each with its id. -/
def part (db : Db) (account : String) (t : TableName) : List (t.Row × ℕ) :=
  Support.part (fun r => decide (db.accountOf (t.owner r) = some account)) (db.rows t)

lemma mem_part {db : Db} {account : String} {t : TableName} {x : t.Row × ℕ} :
    x ∈ db.part account t ↔
      (db.rows t)[x.2]? = some x.1 ∧ db.accountOf (t.owner x.1) = some account := by
  rw [part, Support.mem_part, decide_eq_true_eq]

/-- The row an owner column refers to is there. -/
def Known (db : Db) : Owner → Prop
  | .request r => r < db.paymentRequests.nextId
  | .payment p => p < db.payments.nextId
  | _          => True

/-- The rows refer to rows that are there, as the foreign keys demand, and are filed under their own
payment. -/
structure Refs (db : Db) : Prop where
  known : ∀ t, ∀ r ∈ db.rows t, db.Known (t.owner r)
  filed : ∀ t, ∀ r ∈ db.rows t, t.Filed r
  clearing : ∀ a ∈ db.paymentProviderAccounts, a.ledgerAccountId < db.ledgerAccounts.length

/-- Of a sound database only the foreign key of the clearing accounts is left to check. -/
lemma Sound.refs {db : Db} (h : db.Sound)
    (hclearing : ∀ a ∈ db.paymentProviderAccounts, a.ledgerAccountId < db.ledgerAccounts.length) :
    db.Refs := by
  refine ⟨?_, ?_, hclearing⟩
  · intro t r hr
    cases t with
    | payments =>
      obtain ⟨p, hp⟩ := List.getElem?_of_mem hr
      obtain ⟨request, hrequest⟩ := h.request p r hp
      exact Table.get?_lt hrequest
    | reservations =>
      obtain ⟨i, hi⟩ := List.getElem?_of_mem hr
      obtain ⟨request, hrequest, -⟩ := h.linked i r hi
      exact Table.get?_lt hrequest
    | approvals => exact h.approval r hr
    | operations => exact (h.operation r hr).2
    | transactions => exact (h.transaction r hr).2
    | journals => exact h.journal r hr
    | _ => trivial
  · intro t r hr
    cases t with
    | operations => exact (h.operation r hr).1.payment.symm
    | transactions => exact (h.transaction r hr).1.payment.symm
    | _ => trivial

/-! ### No row changes hands -/

/-- The requests and payments that are there stay with their accounts. -/
structure Grows (db db' : Db) : Prop where
  policies : db'.policies = db.policies
  wallets : db'.wallets = db.wallets
  ledgerAccounts : db'.ledgerAccounts = db.ledgerAccounts
  providerAccounts : db'.paymentProviderAccounts = db.paymentProviderAccounts
  requests : ∀ i r, db.paymentRequests.get? i = some r →
    ∃ r', db'.paymentRequests.get? i = some r' ∧ r'.accountId = r.accountId
  payments : ∀ i r, db.payments.get? i = some r →
    ∃ r', db'.payments.get? i = some r' ∧ r'.paymentRequestId = r.paymentRequestId

variable {db db' db'' : Db} {o : Owner}

lemma Grows.refl (db : Db) : db.Grows db :=
  ⟨rfl, rfl, rfl, rfl, fun _ r h => ⟨r, h, rfl⟩, fun _ r h => ⟨r, h, rfl⟩⟩

lemma Grows.trans (h : db.Grows db') (h' : db'.Grows db'') : db.Grows db'' where
  policies := h'.policies.trans h.policies
  wallets := h'.wallets.trans h.wallets
  ledgerAccounts := h'.ledgerAccounts.trans h.ledgerAccounts
  providerAccounts := h'.providerAccounts.trans h.providerAccounts
  requests i r hr := by
    obtain ⟨r₁, hr₁, hacc⟩ := h.requests i r hr
    obtain ⟨r₂, hr₂, hacc'⟩ := h'.requests i r₁ hr₁
    exact ⟨r₂, hr₂, hacc'.trans hacc⟩
  payments i r hr := by
    obtain ⟨r₁, hr₁, hreq⟩ := h.payments i r hr
    obtain ⟨r₂, hr₂, hreq'⟩ := h'.payments i r₁ hr₁
    exact ⟨r₂, hr₂, hreq'.trans hreq⟩

lemma exists_request {r : RequestId} (h : r < db.paymentRequests.nextId) :
    ∃ request, db.paymentRequests.get? r = some request := ⟨_, List.getElem?_eq_getElem h⟩

lemma exists_payment {p : PaymentId} (h : p < db.payments.nextId) :
    ∃ payment, db.payments.get? p = some payment := ⟨_, List.getElem?_eq_getElem h⟩

lemma Grows.requestAccount (h : db.Grows db') {r : RequestId}
    (hr : r < db.paymentRequests.nextId) : db'.requestAccount r = db.requestAccount r := by
  obtain ⟨request, hrequest⟩ := exists_request hr
  obtain ⟨request', hrequest', hacc⟩ := h.requests r request hrequest
  rw [Db.requestAccount, Db.requestAccount, hrequest, hrequest', Option.map_some, Option.map_some,
    hacc]

lemma Refs.payment (h : db.Refs) {p : PaymentId} {payment : Payment}
    (hp : db.payments.get? p = some payment) :
    payment.paymentRequestId < db.paymentRequests.nextId :=
  h.known .payments payment (Table.mem_of_get? hp)

/-- What is known keeps its account. -/
lemma Grows.accountOf (h : db.Grows db') (hrefs : db.Refs) (ho : db.Known o) :
    db'.accountOf o = db.accountOf o := by
  cases o with
  | account a => rfl
  | policy p => rw [Db.accountOf, Db.accountOf, h.policies]
  | wallet w => rw [Db.accountOf, Db.accountOf, h.wallets]
  | request r => exact h.requestAccount ho
  | payment p =>
    obtain ⟨payment, hp⟩ := exists_payment ho
    obtain ⟨payment', hp', hreq⟩ := h.payments p payment hp
    rw [Db.accountOf, Db.accountOf, hp, hp', Option.bind_some, Option.bind_some, hreq]
    exact h.requestAccount (hrefs.payment hp)

lemma Grows.known (h : db.Grows db') (ho : db.Known o) : db'.Known o := by
  cases o with
  | request r =>
    obtain ⟨request, hrequest⟩ := exists_request ho
    obtain ⟨request', hrequest', -⟩ := h.requests r request hrequest
    exact Table.get?_lt hrequest'
  | payment p =>
    obtain ⟨payment, hp⟩ := exists_payment ho
    obtain ⟨payment', hp', -⟩ := h.payments p payment hp
    exact Table.get?_lt hp'
  | _ => trivial

/-- An owner column that leads to an account refers to a row. -/
lemma known_of_accountOf {account : String} (h : db.accountOf o = some account) : db.Known o := by
  cases o with
  | request r =>
    obtain ⟨request, hrequest, -⟩ := Option.map_eq_some_iff.mp h
    exact Table.get?_lt hrequest
  | payment p =>
    obtain ⟨payment, hp, -⟩ := Option.bind_eq_some_iff.mp h
    exact Table.get?_lt hp
  | _ => trivial

/-- The request or payment that is known has an account. -/
lemma Refs.exists_account (hrefs : db.Refs) {p : PaymentId} (hp : p < db.payments.nextId) :
    ∃ account, db.accountOf (.payment p) = some account := by
  obtain ⟨payment, hpayment⟩ := exists_payment hp
  obtain ⟨request, hrequest⟩ := exists_request (hrefs.payment hpayment)
  exact ⟨request.accountId, by simp [Db.accountOf, Db.requestAccount, hpayment, hrequest]⟩

/-! ### Writes -/

/-- One table is written. -/
structure Writes (t : TableName) (f : List t.Row → List t.Row) (db db' : Db) : Prop where
  here : db'.rows t = f (db.rows t)
  others : ∀ u, u ≠ t → db'.rows u = db.rows u
  merchants : db'.merchants = db.merchants
  providerAccounts : db'.paymentProviderAccounts = db.paymentProviderAccounts

section Writes

variable {t : TableName} {r : t.Row} {i : ℕ} {f : t.Row → t.Row}

/-- A row is appended. -/
lemma Writes.grows_append (h : Writes t (· ++ [r]) db db') (ht : t.Fixed = false) :
    db.Grows db' where
  policies := h.others .policies (by rintro rfl; cases ht)
  wallets := h.others .wallets (by rintro rfl; cases ht)
  ledgerAccounts := h.others .ledgerAccounts (by rintro rfl; cases ht)
  providerAccounts := h.providerAccounts
  requests j x hx := by
    have hx : (db.rows .requests)[j]? = some x := hx
    refine ⟨x, ?_, rfl⟩
    show (db'.rows .requests)[j]? = some x
    rcases eq_or_ne .requests t with rfl | hne
    · rw [h.here, List.getElem?_append_left (List.getElem?_eq_some_iff.mp hx).1, hx]
    · rw [h.others _ hne, hx]
  payments j x hx := by
    have hx : (db.rows .payments)[j]? = some x := hx
    refine ⟨x, ?_, rfl⟩
    show (db'.rows .payments)[j]? = some x
    rcases eq_or_ne .payments t with rfl | hne
    · rw [h.here, List.getElem?_append_left (List.getElem?_eq_some_iff.mp hx).1, hx]
    · rw [h.others _ hne, hx]

/-- A row is rewritten, its owner column left alone. -/
lemma Writes.grows_modify (h : Writes t (·.modify i f) db db') (ht : t.Fixed = false)
    (hf : ∀ r, t.owner (f r) = t.owner r) : db.Grows db' where
  policies := h.others .policies (by rintro rfl; cases ht)
  wallets := h.others .wallets (by rintro rfl; cases ht)
  ledgerAccounts := h.others .ledgerAccounts (by rintro rfl; cases ht)
  providerAccounts := h.providerAccounts
  requests j x hx := by
    have hx : (db.rows .requests)[j]? = some x := hx
    show ∃ x', (db'.rows .requests)[j]? = some x' ∧ _
    rcases eq_or_ne .requests t with rfl | hne
    · rw [h.here, List.getElem?_modify, hx]
      refine ⟨_, rfl, ?_⟩
      split_ifs
      · exact Owner.account.inj (hf x)
      · rfl
    · exact ⟨x, by rw [h.others _ hne, hx], rfl⟩
  payments j x hx := by
    have hx : (db.rows .payments)[j]? = some x := hx
    show ∃ x', (db'.rows .payments)[j]? = some x' ∧ _
    rcases eq_or_ne .payments t with rfl | hne
    · rw [h.here, List.getElem?_modify, hx]
      refine ⟨_, rfl, ?_⟩
      split_ifs
      · exact Owner.request.inj (hf x)
      · rfl
    · exact ⟨x, by rw [h.others _ hne, hx], rfl⟩

/-- Rows that were there belong to whom they belonged. -/
lemma Grows.part_rows (h : db.Grows db') (hrefs : db.Refs) (account : String) (u : TableName) :
    Support.part (fun r => decide (db'.accountOf (u.owner r) = some account)) (db.rows u) =
      db.part account u := by
  apply part_congr
  intro x hx
  rw [h.accountOf hrefs (hrefs.known u x hx)]

lemma Grows.part_of_eq (h : db.Grows db') (hrefs : db.Refs) (account : String) {u : TableName}
    (hu : db'.rows u = db.rows u) : db'.part account u = db.part account u := by
  rw [part, hu]
  exact h.part_rows hrefs account u

lemma Writes.part_append (h : Writes t (· ++ [r]) db db') (ht : t.Fixed = false) (hrefs : db.Refs)
    (account : String) :
    db'.part account t = db.part account t ++
      if db'.accountOf (t.owner r) = some account then [(r, (db.rows t).length)] else [] := by
  rw [part, h.here, Support.part_append, (h.grows_append ht).part_rows hrefs]
  simp

lemma Writes.part_modify (h : Writes t (·.modify i f) db db') (ht : t.Fixed = false)
    (hf : ∀ r, t.owner (f r) = t.owner r) (hrefs : db.Refs) (account : String) :
    db'.part account t = (db.part account t).map (rewrite i f) := by
  rw [part, h.here, Support.part_modify fun r => by rw [hf],
    (h.grows_modify ht hf).part_rows hrefs]

end Writes

/-! ### Confined changes -/

/-- Nothing but rows of the account is written. -/
structure Confined (account : String) (db db' : Db) : Prop where
  refs : db'.Refs
  grows : db.Grows db'
  part : ∀ other, other ≠ account → ∀ t, db'.part other t = db.part other t

variable {A : String}

lemma Confined.refl (A : String) (h : db.Refs) : Confined A db db :=
  ⟨h, .refl db, fun _ _ _ => rfl⟩

lemma Confined.trans (h : Confined A db db') (h' : Confined A db' db'') : Confined A db db'' :=
  ⟨h'.refs, h.grows.trans h'.grows, fun B hB t => (h'.part B hB t).trans (h.part B hB t)⟩

/-- What belongs to an account goes on belonging to it. -/
lemma Confined.accountOf (h : Confined A db db') (hrefs : db.Refs) {account : String}
    (ho : db.accountOf o = some account) : db'.accountOf o = some account := by
  rw [h.grows.accountOf hrefs (known_of_accountOf ho), ho]

/-- A change that writes no table of accounts. -/
lemma Confined.of_rows (hrefs : db.Refs) (h : ∀ t, db'.rows t = db.rows t)
    (hproviders : db'.paymentProviderAccounts = db.paymentProviderAccounts) :
    Confined A db db' := by
  have hgrows : db.Grows db' := by
    refine ⟨h .policies, h .wallets, h .ledgerAccounts, hproviders, fun i r hr => ⟨r, ?_, rfl⟩,
      fun i r hr => ⟨r, ?_, rfl⟩⟩
    · exact (congrArg (fun l : List PaymentRequest => l[i]?) (h .requests)).trans hr
    · exact (congrArg (fun l : List Payment => l[i]?) (h .payments)).trans hr
  refine ⟨⟨?_, ?_, ?_⟩, hgrows, fun B _ t => hgrows.part_of_eq hrefs B (h t)⟩
  · intro t r hr
    rw [h] at hr
    exact hgrows.known (hrefs.known t r hr)
  · intro t r hr
    rw [h] at hr
    exact hrefs.filed t r hr
  · intro a ha
    rw [hproviders] at ha
    have hlength : db'.ledgerAccounts.length = db.ledgerAccounts.length :=
      congrArg List.length (h .ledgerAccounts)
    rw [hlength]
    exact hrefs.clearing a ha

lemma Writes.clearing {t : TableName} {f : List t.Row → List t.Row} (h : Writes t f db db')
    (ht : t.Fixed = false) (hrefs : db.Refs) :
    ∀ a ∈ db'.paymentProviderAccounts, a.ledgerAccountId < db'.ledgerAccounts.length := by
  have hrows : db'.ledgerAccounts = db.ledgerAccounts :=
    h.others .ledgerAccounts (by rintro rfl; cases ht)
  rw [h.providerAccounts, hrows]
  exact hrefs.clearing

/-- A row of the account is appended. -/
lemma Confined.append {t : TableName} {r : t.Row} (h : Writes t (· ++ [r]) db db')
    (ht : t.Fixed = false) (hrefs : db.Refs) (hr : db.accountOf (t.owner r) = some A)
    (hfiled : t.Filed r) : Confined A db db' := by
  have hgrows := h.grows_append ht
  have hknown : db'.Known (t.owner r) := hgrows.known (known_of_accountOf hr)
  have hacc : db'.accountOf (t.owner r) = some A := by
    rw [hgrows.accountOf hrefs (known_of_accountOf hr), hr]
  have hmem : ∀ u, ∀ x ∈ db'.rows u, x ∈ db.rows u ∨ u = t ∧ HEq x r := by
    intro u x hx
    rcases eq_or_ne u t with rfl | hne
    · rw [h.here] at hx
      rcases List.mem_append.mp hx with hold | hnew
      · exact .inl hold
      · exact .inr ⟨rfl, heq_of_eq (List.mem_singleton.mp hnew)⟩
    · rw [h.others u hne] at hx
      exact .inl hx
  refine ⟨⟨?_, ?_, h.clearing ht hrefs⟩, hgrows, ?_⟩
  · intro u x hx
    rcases hmem u x hx with hold | ⟨rfl, hx⟩
    · exact hgrows.known (hrefs.known u x hold)
    · obtain rfl := eq_of_heq hx
      exact hknown
  · intro u x hx
    rcases hmem u x hx with hold | ⟨rfl, hx⟩
    · exact hrefs.filed u x hold
    · obtain rfl := eq_of_heq hx
      exact hfiled
  · intro B hB u
    rcases eq_or_ne u t with rfl | hne
    · rw [h.part_append ht hrefs, if_neg, List.append_nil]
      rw [hacc]
      exact fun heq => hB (Option.some.inj heq).symm
    · exact hgrows.part_of_eq hrefs B (h.others u hne)

/-- A row of the account is rewritten, its owner column and its key left alone. -/
lemma Confined.modify {t : TableName} {i : ℕ} {f : t.Row → t.Row}
    (h : Writes t (·.modify i f) db db') (ht : t.Fixed = false) (hrefs : db.Refs)
    (hi : ∀ r, (db.rows t)[i]? = some r → db.accountOf (t.owner r) = some A)
    (hf : ∀ r, t.owner (f r) = t.owner r) (hfiled : ∀ r, t.Filed r → t.Filed (f r)) :
    Confined A db db' := by
  have hgrows := h.grows_modify ht hf
  refine ⟨⟨?_, ?_, h.clearing ht hrefs⟩, hgrows, ?_⟩
  · intro u x hx
    rcases eq_or_ne u t with rfl | hne
    · rw [h.here] at hx
      rcases mem_modify hx with hold | ⟨r, hr, rfl⟩
      · exact hgrows.known (hrefs.known u x hold)
      · rw [hf]
        exact hgrows.known (hrefs.known u r (List.mem_of_getElem? hr))
    · rw [h.others u hne] at hx
      exact hgrows.known (hrefs.known u x hx)
  · intro u x hx
    rcases eq_or_ne u t with rfl | hne
    · rw [h.here] at hx
      rcases mem_modify hx with hold | ⟨r, hr, rfl⟩
      · exact hrefs.filed u x hold
      · exact hfiled r (hrefs.filed u r (List.mem_of_getElem? hr))
    · rw [h.others u hne] at hx
      exact hrefs.filed u x hx
  · intro B hB u
    rcases eq_or_ne u t with rfl | hne
    · have hpart : Support.part (fun r => decide (db'.accountOf (u.owner r) = some B))
          ((db.rows u).modify i f) = db.part B u := by
        rw [part_modify_of_not (fun r => by rw [hf]), hgrows.part_rows hrefs]
        intro r hr
        rw [hgrows.accountOf hrefs (hrefs.known u r (List.mem_of_getElem? hr)), hi r hr]
        simpa using fun heq => hB heq.symm
      rw [← hpart, ← h.here]
      rfl
    · exact hgrows.part_of_eq hrefs B (h.others u hne)

end Db

end AgentPay
