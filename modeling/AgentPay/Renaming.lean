import AgentPay.Ownership

/-!
# Two databases that an account cannot tell apart

Two databases are `Alike` for an account when it has the same of both, up to the ids of the rows
that were inserted on the way. What a transaction reads of such databases is the same, and where
both write the same they stay alike.
-/

namespace AgentPay

open Support

/-! ### Renaming -/

section Keys

variable (f g : ℕ → ℕ)

def OperationKey.rename : OperationKey → OperationKey
  | charge p     => charge (f p)
  | capture p    => capture (f p)
  | void p       => void (f p)
  | refund p a c => refund (f p) a c

def TransactionKey.rename : TransactionKey → TransactionKey
  | capture p       => capture (f p)
  | eventCapture p  => eventCapture (f p)
  | captureFailed p => captureFailed (f p)
  | void p          => void (f p)
  | voidFailed p    => voidFailed (f p)
  | refund p a c    => refund (f p) a c

def JournalKey.rename : JournalKey → JournalKey
  | capture p    => capture (f p)
  | refund p a c => refund (f p) a c

def JournalReference.rename : JournalReference → JournalReference
  | transaction i => transaction (f i)
  | payment p     => payment (g p)

@[simp] lemma OperationKey.paymentId_rename (k : OperationKey) :
    (k.rename f).paymentId = f k.paymentId := by
  cases k <;> rfl

@[simp] lemma TransactionKey.paymentId_rename (k : TransactionKey) :
    (k.rename f).paymentId = f k.paymentId := by
  cases k <;> rfl

@[simp] lemma JournalKey.paymentId_rename (k : JournalKey) :
    (k.rename f).paymentId = f k.paymentId := by
  cases k <;> rfl

variable {f}

lemma OperationKey.rename_eq_self {k : OperationKey} (h : f k.paymentId = k.paymentId) :
    k.rename f = k := by
  cases k <;> simp_all [rename, paymentId]

lemma TransactionKey.rename_eq_self {k : TransactionKey} (h : f k.paymentId = k.paymentId) :
    k.rename f = k := by
  cases k <;> simp_all [rename, paymentId]

lemma JournalKey.rename_eq_self {k : JournalKey} (h : f k.paymentId = k.paymentId) :
    k.rename f = k := by
  cases k <;> simp_all [rename, paymentId]

lemma OperationKey.rename_eq_iff {k k' : OperationKey}
    (hf : f k.paymentId = f k'.paymentId → k.paymentId = k'.paymentId) :
    k.rename f = k'.rename f ↔ k = k' := by
  refine ⟨fun h => ?_, fun h => h ▸ rfl⟩
  have hid := hf (by simpa using congrArg OperationKey.paymentId h)
  cases k <;> cases k' <;> simp_all [OperationKey.rename, OperationKey.paymentId]

lemma TransactionKey.rename_eq_iff {k k' : TransactionKey}
    (hf : f k.paymentId = f k'.paymentId → k.paymentId = k'.paymentId) :
    k.rename f = k'.rename f ↔ k = k' := by
  refine ⟨fun h => ?_, fun h => h ▸ rfl⟩
  have hid := hf (by simpa using congrArg TransactionKey.paymentId h)
  cases k <;> cases k' <;> simp_all [TransactionKey.rename, TransactionKey.paymentId]

lemma JournalKey.rename_eq_iff {k k' : JournalKey}
    (hf : f k.paymentId = f k'.paymentId → k.paymentId = k'.paymentId) :
    k.rename f = k'.rename f ↔ k = k' := by
  refine ⟨fun h => ?_, fun h => h ▸ rfl⟩
  have hid := hf (by simpa using congrArg JournalKey.paymentId h)
  cases k <;> cases k' <;> simp_all [JournalKey.rename, JournalKey.paymentId]

end Keys

/-- New ids for the rows of each table. -/
abbrev Renaming := TableName → ℕ → ℕ

def Owner.rename (σ : Renaming) : Owner → Owner
  | request r => request (σ .requests r)
  | payment p => payment (σ .payments p)
  | o         => o

namespace TableName

/-- The tables that requests insert into. -/
def Grown : TableName → Bool
  | policies | policyVersions | wallets | ledgerAccounts | budgets => false
  | _                                                              => true

lemma fixed_of_grown {t : TableName} (h : t.Grown = true) : t.Fixed = false := by
  cases t <;> first | rfl | cases h

/-- A row with the ids in it renamed. -/
def rename (σ : Renaming) : (t : TableName) → t.Row → t.Row
  | evidence, r =>
    { r with paymentRequestId := r.paymentRequestId.map (σ .requests) }
  | requests, r =>
    { r with
      budgetReservationId := r.budgetReservationId.map (σ .reservations)
      authorizationEvidenceId := r.authorizationEvidenceId.map (σ .evidence) }
  | payments, r =>
    { r with
      paymentRequestId := σ .requests r.paymentRequestId
      providerOperationId := r.providerOperationId.map (σ .operations) }
  | reservations, r => { r with paymentRequestId := σ .requests r.paymentRequestId }
  | approvals, r => { r with paymentRequestId := σ .requests r.paymentRequestId }
  | operations, r =>
    { r with
      paymentId := σ .payments r.paymentId
      idempotencyKey := r.idempotencyKey.rename (σ .payments) }
  | transactions, r =>
    { r with
      paymentId := σ .payments r.paymentId
      idempotencyKey := r.idempotencyKey.rename (σ .payments) }
  | journals, r =>
    { r with
      reference := r.reference.rename (σ .transactions) (σ .payments)
      idempotencyKey := r.idempotencyKey.rename (σ .payments) }
  | _, r => r

@[simp] lemma owner_rename (σ : Renaming) (t : TableName) (r : t.Row) :
    t.owner (t.rename σ r) = (t.owner r).rename σ := by
  cases t with
  | journals => exact congrArg Owner.payment (JournalKey.paymentId_rename _ r.idempotencyKey)
  | _ => rfl

lemma Filed.rename {σ : Renaming} {t : TableName} {r : t.Row} (h : t.Filed r) :
    t.Filed (t.rename σ r) := by
  cases t with
  | operations =>
    exact (OperationKey.paymentId_rename _ _).trans (congrArg (σ .payments) h)
  | transactions =>
    exact (TransactionKey.paymentId_rename _ _).trans (congrArg (σ .payments) h)
  | _ => trivial

/-- Every id in a row. -/
def Ids (P : TableName → ℕ → Prop) : (t : TableName) → t.Row → Prop
  | evidence, r => ∀ i ∈ r.paymentRequestId, P requests i
  | requests, r =>
    (∀ i ∈ r.budgetReservationId, P reservations i) ∧ ∀ i ∈ r.authorizationEvidenceId, P evidence i
  | payments, r => P requests r.paymentRequestId ∧ ∀ i ∈ r.providerOperationId, P operations i
  | reservations, r => P requests r.paymentRequestId
  | approvals, r => P requests r.paymentRequestId
  | operations, r => P payments r.paymentId ∧ P payments r.idempotencyKey.paymentId
  | transactions, r => P payments r.paymentId ∧ P payments r.idempotencyKey.paymentId
  | journals, r =>
    (match r.reference with
      | .transaction i => P transactions i
      | .payment p => P payments p) ∧ P payments r.idempotencyKey.paymentId
  | _, _ => True

lemma Ids.imp {P Q : TableName → ℕ → Prop} (hPQ : ∀ u i, P u i → Q u i) {t : TableName}
    {r : t.Row} (h : t.Ids P r) : t.Ids Q r := by
  cases t with
  | evidence => exact fun i hi => hPQ _ i (h i hi)
  | requests => exact ⟨fun i hi => hPQ _ i (h.1 i hi), fun i hi => hPQ _ i (h.2 i hi)⟩
  | payments => exact ⟨hPQ _ _ h.1, fun i hi => hPQ _ i (h.2 i hi)⟩
  | reservations => exact hPQ _ _ h
  | approvals => exact hPQ _ _ h
  | operations => exact ⟨hPQ _ _ h.1, hPQ _ _ h.2⟩
  | transactions => exact ⟨hPQ _ _ h.1, hPQ _ _ h.2⟩
  | journals =>
    refine ⟨?_, hPQ _ _ h.2⟩
    obtain ⟨h, -⟩ := h
    split at h
    · exact hPQ _ _ h
    · exact hPQ _ _ h
  | _ => trivial

/-- A row whose ids keep their names. -/
lemma rename_eq_self {σ : Renaming} {t : TableName} {r : t.Row}
    (h : t.Ids (fun u i => σ u i = i) r) : t.rename σ r = r := by
  have hoption : ∀ {u : TableName} {o : Option ℕ}, (∀ i ∈ o, σ u i = i) → o.map (σ u) = o := by
    intro u o ho
    cases o with
    | none => rfl
    | some i => exact congrArg some (ho i rfl)
  have hreference : ∀ {x : JournalReference}, (match x with
      | .transaction i => σ .transactions i = i
      | .payment p => σ .payments p = p) → x.rename (σ .transactions) (σ .payments) = x := by
    intro x hx
    cases x with
    | transaction i => exact congrArg JournalReference.transaction hx
    | payment p => exact congrArg JournalReference.payment hx
  cases t with
  | evidence => simp only [rename, hoption h]
  | requests => simp only [rename, hoption h.1, hoption h.2]
  | payments => simp only [rename, hoption h.2, h.1]
  | reservations =>
    have h : σ requests r.paymentRequestId = r.paymentRequestId := h
    simp only [rename, h]
  | approvals =>
    have h : σ requests r.paymentRequestId = r.paymentRequestId := h
    simp only [rename, h]
  | operations => simp only [rename, h.1, OperationKey.rename_eq_self h.2]
  | transactions => simp only [rename, h.1, TransactionKey.rename_eq_self h.2]
  | journals => simp only [rename, hreference h.1, JournalKey.rename_eq_self h.2]
  | _ => rfl

/-- A row with its id, both renamed. -/
def renameEntry (σ : Renaming) (t : TableName) (x : t.Row × ℕ) : t.Row × ℕ :=
  (t.rename σ x.1, σ t x.2)

end TableName

/-! ### Alike -/

/-- The account has the same of both databases, up to the ids in `σ`; the approvals are left out,
whose digests are of ids. What belongs to no account is the same. -/
structure Alike (A : String) (σ : Renaming) (s s' : Db) : Prop where
  refs : s.Refs
  refs' : s'.Refs
  merchants : s'.merchants = s.merchants
  providerAccounts : s'.paymentProviderAccounts = s.paymentProviderAccounts
  part : ∀ t, t ≠ .approvals → s'.part A t = (s.part A t).map (t.renameEntry σ)
  injective : ∀ t, t ≠ .approvals → ∀ x ∈ s.part A t, ∀ y ∈ s.part A t,
    σ t x.2 = σ t y.2 → x.2 = y.2
  next : ∀ t, t.Grown = true → ∀ k, σ t ((s.rows t).length + k) = (s'.rows t).length + k
  fixed : ∀ t, t.Grown = false → ∀ i, σ t i = i

/-- The two databases become two that are alike again, and the first is written in rows of the
account alone. -/
structure After (A : String) (σ : Renaming) (s s' t t' : Db) : Prop where
  alike : Alike A σ t t'
  confined : s.Confined A t

variable {A : String} {σ : Renaming} {s s' t t' u u' : Db}

lemma After.refl (h : Alike A σ s s') : After A σ s s' s s' := ⟨h, .refl A h.refs⟩

lemma After.trans (h : After A σ s s' t t') (h' : After A σ t t' u u') : After A σ s s' u u' :=
  ⟨h'.alike, h.confined.trans h'.confined⟩

namespace Alike

/-! ### Reads -/

lemma mem (h : Alike A σ s s') {t : TableName} (ht : t ≠ .approvals) {x : t.Row × ℕ}
    (hx : x ∈ s.part A t) : t.renameEntry σ x ∈ s'.part A t := by
  rw [h.part t ht]
  exact List.mem_map_of_mem hx

lemma row {t : TableName} {x : t.Row × ℕ} (hx : x ∈ s.part A t) : (s.rows t)[x.2]? = some x.1 :=
  (Db.mem_part.mp hx).1

/-- A row whose position has the account's row is that row. -/
lemma eq_of_row {t : TableName} {x : t.Row × ℕ} (hx : x ∈ s.part A t) {r : t.Row}
    (hr : (s.rows t)[x.2]? = some r) : x.1 = r := Option.some.inj ((row hx).symm.trans hr)

lemma mem_request {r : RequestId} (hr : s.requestAccount r = some A) :
    ∃ request, s.paymentRequests.get? r = some request ∧ (request, r) ∈ s.part A .requests := by
  obtain ⟨request, hrequest, hacc⟩ := Option.map_eq_some_iff.mp hr
  exact ⟨request, hrequest, Db.mem_part.mpr ⟨hrequest, congrArg some hacc⟩⟩

lemma mem_payment {p : PaymentId} (hp : s.accountOf (.payment p) = some A) :
    ∃ payment, s.payments.get? p = some payment ∧
      s.requestAccount payment.paymentRequestId = some A ∧ (payment, p) ∈ s.part A .payments := by
  obtain ⟨payment, hpayment, hacc⟩ := Option.bind_eq_some_iff.mp hp
  exact ⟨payment, hpayment, hacc, Db.mem_part.mpr ⟨hpayment, hacc⟩⟩

lemma get?_request (h : Alike A σ s s') {r : RequestId} (hr : s.requestAccount r = some A) :
    ∃ request, s.paymentRequests.get? r = some request ∧ request.accountId = A ∧
      s'.paymentRequests.get? (σ .requests r) = some (TableName.rename σ .requests request) := by
  obtain ⟨request, hrequest, hmem⟩ := mem_request hr
  obtain ⟨hrow, hacc⟩ := Db.mem_part.mp hmem
  exact ⟨request, hrequest, Option.some.inj hacc, row (h.mem (by decide) hmem)⟩

lemma get?_payment (h : Alike A σ s s') {p : PaymentId} (hp : s.accountOf (.payment p) = some A) :
    ∃ payment, s.payments.get? p = some payment ∧
      s.requestAccount payment.paymentRequestId = some A ∧
      s'.payments.get? (σ .payments p) = some (TableName.rename σ .payments payment) := by
  obtain ⟨payment, hpayment, hacc, hmem⟩ := mem_payment hp
  exact ⟨payment, hpayment, hacc, row (h.mem (by decide) hmem)⟩

lemma request_inj (h : Alike A σ s s') {i j : RequestId} (hi : s.requestAccount i = some A)
    (hj : s.requestAccount j = some A) : σ .requests i = σ .requests j ↔ i = j := by
  obtain ⟨x, -, hx⟩ := mem_request hi
  obtain ⟨y, -, hy⟩ := mem_request hj
  exact ⟨h.injective .requests (by decide) _ hx _ hy, congrArg _⟩

lemma payment_inj (h : Alike A σ s s') {p q : PaymentId} (hp : s.accountOf (.payment p) = some A)
    (hq : s.accountOf (.payment q) = some A) : σ .payments p = σ .payments q ↔ p = q := by
  obtain ⟨x, -, -, hx⟩ := mem_payment hp
  obtain ⟨y, -, -, hy⟩ := mem_payment hq
  exact ⟨h.injective .payments (by decide) _ hx _ hy, congrArg _⟩

/-- A wallet of the account is the same row of both. -/
lemma wallet (h : Alike A σ s s') {w : Option ℕ} (hw : s.accountOf (.wallet w) = some A) :
    ∃ i wallet, w = some i ∧ s.wallets[i]? = some wallet ∧ wallet.accountId = A ∧
      s'.wallets[i]? = some wallet := by
  obtain ⟨wallet, hw, hacc⟩ := Option.map_eq_some_iff.mp hw
  obtain ⟨i, rfl, hwallet⟩ := Option.bind_eq_some_iff.mp hw
  have hmem : (wallet, i) ∈ s.part A .wallets := Db.mem_part.mpr ⟨hwallet, congrArg some hacc⟩
  have hrow := row (h.mem (by decide) hmem)
  rw [show (TableName.wallets.renameEntry σ (wallet, i)).2 = i from h.fixed .wallets rfl i]
    at hrow
  exact ⟨i, wallet, rfl, hwallet, hacc, hrow⟩

/-- What belongs to the account in the one database belongs to it in the other. -/
lemma accountOf (h : Alike A σ s s') {o : Owner} (ho : s.accountOf o = some A) :
    s'.accountOf (o.rename σ) = some A := by
  cases o with
  | account a => exact ho
  | policy p =>
    obtain ⟨policy, hpolicy, hacc⟩ := Option.map_eq_some_iff.mp ho
    have hmem : (policy, p) ∈ s.part A .policies :=
      Db.mem_part.mpr ⟨hpolicy, congrArg some hacc⟩
    have hrow := row (h.mem (by decide) hmem)
    rw [show (TableName.policies.renameEntry σ (policy, p)).2 = p from h.fixed .policies rfl p]
      at hrow
    exact Option.map_eq_some_iff.mpr ⟨policy, hrow, hacc⟩
  | wallet w =>
    obtain ⟨i, wallet, rfl, -, hacc, hrow⟩ := h.wallet ho
    exact Option.map_eq_some_iff.mpr ⟨wallet, hrow, hacc⟩
  | request r =>
    obtain ⟨request, -, hacc, hrequest⟩ := h.get?_request ho
    exact Option.map_eq_some_iff.mpr ⟨_, hrequest, hacc⟩
  | payment p =>
    obtain ⟨payment, -, hacc, hpayment⟩ := h.get?_payment ho
    obtain ⟨request, -, hrequestAcc, hrequest⟩ := h.get?_request hacc
    refine Option.bind_eq_some_iff.mpr ⟨_, hpayment, ?_⟩
    exact Option.map_eq_some_iff.mpr ⟨_, hrequest, hrequestAcc⟩

/-- A search that finds rows of the account only. -/
lemma findIdx? (h : Alike A σ s s') {t : TableName} (ht : t ≠ .approvals) {q q' : t.Row → Bool}
    (hq : ∀ r ∈ s.rows t, q r = true → s.accountOf (t.owner r) = some A)
    (hq' : ∀ r ∈ s'.rows t, q' r = true → s'.accountOf (t.owner r) = some A)
    (hqq : ∀ x ∈ s.part A t, q' (t.rename σ x.1) = q x.1) :
    (s'.rows t).findIdx? q' = ((s.rows t).findIdx? q).map (σ t) := by
  have hleft : (s.rows t).findIdx? q = ((s.part A t).find? fun x => q x.1).map Prod.snd :=
    findIdx?_eq_part fun r hr hqr => decide_eq_true (hq r hr hqr)
  have hright : (s'.rows t).findIdx? q' = ((s'.part A t).find? fun x => q' x.1).map Prod.snd :=
    findIdx?_eq_part fun r hr hqr => decide_eq_true (hq' r hr hqr)
  have hfind : ((s.part A t).find? fun x => q' (t.renameEntry σ x).1) =
      (s.part A t).find? fun x => q x.1 := by
    have hall := hqq
    generalize s.part A t = l at hall
    induction l with
    | nil => rfl
    | cons x l ih =>
      rw [List.find?_cons, List.find?_cons, ih fun y hy => hall y (List.mem_cons_of_mem _ hy)]
      rw [show q' (t.renameEntry σ x).1 = q x.1 from hall x List.mem_cons_self]
  rw [hleft, hright, h.part t ht, List.find?_map, Option.map_map, Option.map_map]
  simp only [Function.comp_def] at hfind ⊢
  rw [hfind]
  rfl

/-- The row a search finds. -/
lemma found {t : TableName} {q : t.Row → Bool}
    (hq : ∀ r ∈ s.rows t, q r = true → s.accountOf (t.owner r) = some A) {i : ℕ}
    (hi : (s.rows t).findIdx? q = some i) : ∃ r, (r, i) ∈ s.part A t ∧ q r = true := by
  obtain ⟨hlt, hqr, -⟩ := List.findIdx?_eq_some_iff_getElem.mp hi
  have hacc := hq _ (List.getElem_mem hlt) hqr
  exact ⟨_, Db.mem_part.mpr ⟨List.getElem?_eq_getElem hlt, hacc⟩, hqr⟩

/-! ### Lookups by key -/

lemma idOf?_requests (h : Alike A σ s s') (k : String) :
    s'.paymentRequests.idOf? (A, k) = (s.paymentRequests.idOf? (A, k)).map (σ .requests) := by
  have hown : ∀ {r : PaymentRequest}, decide (r.key = some (A, k)) = true →
      some r.accountId = some A := by
    intro r hr
    have hkey := of_decide_eq_true hr
    simp only [Option.some.injEq, Prod.mk.injEq] at hkey
    rw [hkey.1]
  exact h.findIdx? (t := .requests) (by decide) (fun r _ hr => hown hr) (fun r _ hr => hown hr)
    fun x _ => rfl

lemma idOf?_payments (h : Alike A σ s s') {r : RequestId} (hr : s.requestAccount r = some A) :
    s'.payments.idOf? (σ .requests r) = (s.payments.idOf? r).map (σ .payments) := by
  apply h.findIdx? (t := .payments) (by decide)
  · intro x _ hx
    obtain rfl := Option.some.inj (of_decide_eq_true hx)
    exact hr
  · intro x _ hx
    have hreq : x.paymentRequestId = σ .requests r := Option.some.inj (of_decide_eq_true hx)
    show s'.requestAccount x.paymentRequestId = some A
    rw [hreq]
    exact h.accountOf (o := .request r) hr
  · intro x hx
    have hinj := h.request_inj (Db.mem_part.mp hx).2 hr
    exact decide_eq_decide.mpr (by simpa [TableName.rename] using hinj)

lemma idOf?_reservations (h : Alike A σ s s') {r : RequestId} (hr : s.requestAccount r = some A)
    (b : BudgetId) :
    s'.budgetReservations.idOf? (b, σ .requests r) =
      (s.budgetReservations.idOf? (b, r)).map (σ .reservations) := by
  apply h.findIdx? (t := .reservations) (by decide)
  · intro x _ hx
    have hkey := of_decide_eq_true hx
    simp only [Option.some.injEq, Prod.mk.injEq] at hkey
    show s.requestAccount x.paymentRequestId = some A
    rw [hkey.2, hr]
  · intro x _ hx
    have hkey := of_decide_eq_true hx
    simp only [Option.some.injEq, Prod.mk.injEq] at hkey
    show s'.requestAccount x.paymentRequestId = some A
    rw [hkey.2]
    exact h.accountOf (o := .request r) hr
  · intro x hx
    have hinj := h.request_inj (Db.mem_part.mp hx).2 hr
    exact decide_eq_decide.mpr (by simp [TableName.rename, hinj])

lemma idOf?_operations (h : Alike A σ s s') {k : OperationKey}
    (hk : s.accountOf (.payment k.paymentId) = some A) :
    s'.providerOperations.idOf? (k.rename (σ .payments)) =
      (s.providerOperations.idOf? k).map (σ .operations) := by
  have hk' : s'.accountOf (.payment (k.rename (σ .payments)).paymentId) = some A := by
    rw [OperationKey.paymentId_rename]
    exact h.accountOf (o := .payment k.paymentId) hk
  apply h.findIdx? (t := .operations) (by decide)
  · intro x hx hkey
    have hfiled := h.refs.filed .operations x hx
    obtain rfl := Option.some.inj (of_decide_eq_true hkey)
    rwa [hfiled] at hk
  · intro x hx hkey
    have hfiled := h.refs'.filed .operations x hx
    rw [← Option.some.inj (of_decide_eq_true hkey), hfiled] at hk'
    exact hk'
  · intro x hx
    obtain ⟨hrow, hacc⟩ := Db.mem_part.mp hx
    have hfiled := h.refs.filed .operations x.1 (List.mem_of_getElem? hrow)
    have hacc' : s.accountOf (.payment x.1.idempotencyKey.paymentId) = some A := by
      rw [hfiled]
      exact hacc
    have hinj := OperationKey.rename_eq_iff (h.payment_inj hacc' hk).mp
    exact decide_eq_decide.mpr (by simp [TableName.rename, hinj])

lemma idOf?_transactions (h : Alike A σ s s') {k : TransactionKey}
    (hk : s.accountOf (.payment k.paymentId) = some A) :
    s'.transactions.idOf? (k.rename (σ .payments)) =
      (s.transactions.idOf? k).map (σ .transactions) := by
  have hk' : s'.accountOf (.payment (k.rename (σ .payments)).paymentId) = some A := by
    rw [TransactionKey.paymentId_rename]
    exact h.accountOf (o := .payment k.paymentId) hk
  apply h.findIdx? (t := .transactions) (by decide)
  · intro x hx hkey
    have hfiled := h.refs.filed .transactions x hx
    obtain rfl := Option.some.inj (of_decide_eq_true hkey)
    rwa [hfiled] at hk
  · intro x hx hkey
    have hfiled := h.refs'.filed .transactions x hx
    rw [← Option.some.inj (of_decide_eq_true hkey), hfiled] at hk'
    exact hk'
  · intro x hx
    obtain ⟨hrow, hacc⟩ := Db.mem_part.mp hx
    have hfiled := h.refs.filed .transactions x.1 (List.mem_of_getElem? hrow)
    have hacc' : s.accountOf (.payment x.1.idempotencyKey.paymentId) = some A := by
      rw [hfiled]
      exact hacc
    have hinj := TransactionKey.rename_eq_iff (h.payment_inj hacc' hk).mp
    exact decide_eq_decide.mpr (by simp [TableName.rename, hinj])

lemma idOf?_journals (h : Alike A σ s s') {k : JournalKey}
    (hk : s.accountOf (.payment k.paymentId) = some A) :
    s'.ledgerJournals.idOf? (k.rename (σ .payments)) =
      (s.ledgerJournals.idOf? k).map (σ .journals) := by
  have hk' : s'.accountOf (.payment (k.rename (σ .payments)).paymentId) = some A := by
    rw [JournalKey.paymentId_rename]
    exact h.accountOf (o := .payment k.paymentId) hk
  apply h.findIdx? (t := .journals) (by decide)
  · intro x _ hkey
    obtain rfl := Option.some.inj (of_decide_eq_true hkey)
    exact hk
  · intro x _ hkey
    rw [← Option.some.inj (of_decide_eq_true hkey)] at hk'
    exact hk'
  · intro x hx
    have hinj := JournalKey.rename_eq_iff (h.payment_inj (Db.mem_part.mp hx).2 hk).mp
    exact decide_eq_decide.mpr (by simp [TableName.rename, hinj])

/-! ### Writes -/

/-- Both append a row of the account, the one's the other's renamed. -/
lemma append (h : Alike A σ s s') {u : TableName} (hu : u.Grown = true) {r r' : u.Row}
    (ht : s.Writes u (· ++ [r]) t) (ht' : s'.Writes u (· ++ [r']) t')
    (hr : s.accountOf (u.owner r) = some A) (hr' : s'.accountOf (u.owner r') = some A)
    (hfiled : u.Filed r) (hfiled' : u.Filed r') (hrename : u ≠ .approvals → r' = u.rename σ r) :
    After A σ s s' t t' := by
  have hfixed := TableName.fixed_of_grown hu
  have hconfined := Db.Confined.append ht hfixed h.refs hr hfiled
  have hconfined' := Db.Confined.append ht' hfixed h.refs' hr' hfiled'
  have hpart : t.part A u = s.part A u ++ [(r, (s.rows u).length)] := by
    rw [ht.part_append hfixed h.refs, if_pos (hconfined.accountOf h.refs hr)]
  have hpart' : t'.part A u = s'.part A u ++ [(r', (s'.rows u).length)] := by
    rw [ht'.part_append hfixed h.refs', if_pos (hconfined'.accountOf h.refs' hr')]
  have hnext : σ u (s.rows u).length = (s'.rows u).length := h.next u hu 0
  refine ⟨⟨hconfined.refs, hconfined'.refs, ?_, ?_, ?_, ?_, ?_, h.fixed⟩, hconfined⟩
  · rw [ht.merchants, ht'.merchants, h.merchants]
  · rw [ht.providerAccounts, ht'.providerAccounts, h.providerAccounts]
  · intro v hv
    rcases eq_or_ne v u with rfl | hne
    · rw [hpart, hpart', h.part v hv, List.map_append, hrename hv]
      simp [TableName.renameEntry, hnext]
    · rw [hconfined.grows.part_of_eq h.refs A (ht.others v hne),
        hconfined'.grows.part_of_eq h.refs' A (ht'.others v hne), h.part v hv]
  · intro v hv x hx y hy hxy
    rcases eq_or_ne v u with rfl | hne
    · have hold : ∀ z ∈ s.part A v, σ v z.2 < (s'.rows v).length := by
        intro z hz
        exact (List.getElem?_eq_some_iff.mp (row (h.mem hv hz))).1
      rw [hpart] at hx hy
      rcases List.mem_append.mp hx with hx | hx <;> rcases List.mem_append.mp hy with hy | hy
      · exact h.injective v hv x hx y hy hxy
      · have hlt := hold x hx
        rw [hxy, List.mem_singleton.mp hy, hnext] at hlt
        exact absurd hlt (lt_irrefl _)
      · have hlt := hold y hy
        rw [← hxy, List.mem_singleton.mp hx, hnext] at hlt
        exact absurd hlt (lt_irrefl _)
      · rw [List.mem_singleton.mp hx, List.mem_singleton.mp hy]
    · rw [hconfined.grows.part_of_eq h.refs A (ht.others v hne)] at hx hy
      exact h.injective v hv x hx y hy hxy
  · intro v hv k
    rcases eq_or_ne v u with rfl | hne
    · have hk := h.next v hv (k + 1)
      rw [ht.here, ht'.here, List.length_append, List.length_append, List.length_singleton,
        List.length_singleton]
      rw [show (s.rows v).length + 1 + k = (s.rows v).length + (k + 1) by omega, hk]
      omega
    · rw [ht.others v hne, ht'.others v hne]
      exact h.next v hv k

/-- Both append the same row, up to the ids in it. -/
lemma append_rename (h : Alike A σ s s') {u : TableName} (hu : u.Grown = true) {r : u.Row}
    (ht : s.Writes u (· ++ [r]) t) (ht' : s'.Writes u (· ++ [u.rename σ r]) t')
    (hr : s.accountOf (u.owner r) = some A) (hfiled : u.Filed r) : After A σ s s' t t' := by
  refine h.append hu ht ht' hr ?_ hfiled hfiled.rename fun _ => rfl
  rw [TableName.owner_rename]
  exact h.accountOf hr

/-- Both rewrite a row of the account in the same way. -/
lemma modify (h : Alike A σ s s') {u : TableName} (hu : u.Fixed = false) (hne : u ≠ .approvals)
    {i : ℕ} {f f' : u.Row → u.Row} (ht : s.Writes u (·.modify i f) t)
    (ht' : s'.Writes u (·.modify (σ u i) f') t') {r : u.Row} (hr : (r, i) ∈ s.part A u)
    (hf : ∀ r, u.owner (f r) = u.owner r) (hf' : ∀ r, u.owner (f' r) = u.owner r)
    (hfiled : ∀ r, u.Filed r → u.Filed (f r)) (hfiled' : ∀ r, u.Filed r → u.Filed (f' r))
    (hff : ∀ r, f' (u.rename σ r) = u.rename σ (f r)) : After A σ s s' t t' := by
  have hi : ∀ x, (s.rows u)[i]? = some x → s.accountOf (u.owner x) = some A := by
    intro x hx
    rw [← eq_of_row hr hx]
    exact (Db.mem_part.mp hr).2
  have hi' : ∀ x, (s'.rows u)[σ u i]? = some x → s'.accountOf (u.owner x) = some A := by
    intro x hx
    have hmem := h.mem hne hr
    rw [← eq_of_row hmem hx]
    exact (Db.mem_part.mp hmem).2
  have hconfined := Db.Confined.modify ht hu h.refs hi hf hfiled
  have hconfined' := Db.Confined.modify ht' hu h.refs' hi' hf' hfiled'
  have hpart : t.part A u = (s.part A u).map (rewrite i f) := ht.part_modify hu hf h.refs A
  have hpart' : t'.part A u = (s'.part A u).map (rewrite (σ u i) f') :=
    ht'.part_modify hu hf' h.refs' A
  have hid : ∀ x : u.Row × ℕ, (rewrite i f x).2 = x.2 := by
    intro x
    unfold rewrite
    split_ifs <;> rfl
  refine ⟨⟨hconfined.refs, hconfined'.refs, ?_, ?_, ?_, ?_, ?_, h.fixed⟩, hconfined⟩
  · rw [ht.merchants, ht'.merchants, h.merchants]
  · rw [ht.providerAccounts, ht'.providerAccounts, h.providerAccounts]
  · intro v hv
    rcases eq_or_ne v u with rfl | hvu
    · rw [hpart, hpart', h.part v hv, List.map_map, List.map_map]
      apply List.map_congr_left
      intro x hx
      have hiff : σ v x.2 = σ v i ↔ x.2 = i := ⟨h.injective v hv x hx _ hr, congrArg _⟩
      simp only [Function.comp_apply, rewrite, TableName.renameEntry, hiff]
      split_ifs
      · rw [hff]
      · rfl
    · rw [hconfined.grows.part_of_eq h.refs A (ht.others v hvu),
        hconfined'.grows.part_of_eq h.refs' A (ht'.others v hvu), h.part v hv]
  · intro v hv x hx y hy hxy
    rcases eq_or_ne v u with rfl | hvu
    · rw [hpart] at hx hy
      obtain ⟨x₀, hx₀, rfl⟩ := List.mem_map.mp hx
      obtain ⟨y₀, hy₀, rfl⟩ := List.mem_map.mp hy
      rw [hid, hid] at hxy ⊢
      exact h.injective v hv x₀ hx₀ y₀ hy₀ hxy
    · rw [hconfined.grows.part_of_eq h.refs A (ht.others v hvu)] at hx hy
      exact h.injective v hv x hx y hy hxy
  · intro v hv k
    have hlength : (t.rows v).length = (s.rows v).length := by
      rcases eq_or_ne v u with rfl | hvu
      · rw [ht.here, List.length_modify]
      · rw [ht.others v hvu]
    have hlength' : (t'.rows v).length = (s'.rows v).length := by
      rcases eq_or_ne v u with rfl | hvu
      · rw [ht'.here, List.length_modify]
      · rw [ht'.others v hvu]
    rw [hlength, hlength']
    exact h.next v hv k

/-- Neither writes a table of accounts, and what both may read stays the same. -/
lemma of_rows (h : Alike A σ s s') (ht : ∀ v, t.rows v = s.rows v)
    (ht' : ∀ v, t'.rows v = s'.rows v) (hmerchants : t'.merchants = t.merchants)
    (hproviders : t.paymentProviderAccounts = s.paymentProviderAccounts)
    (hproviders' : t'.paymentProviderAccounts = s'.paymentProviderAccounts) :
    After A σ s s' t t' := by
  have hconfined := Db.Confined.of_rows (A := A) h.refs ht hproviders
  have hconfined' := Db.Confined.of_rows (A := A) h.refs' ht' hproviders'
  have hpart : ∀ v, t.part A v = s.part A v := fun v =>
    hconfined.grows.part_of_eq h.refs A (ht v)
  have hpart' : ∀ v, t'.part A v = s'.part A v := fun v =>
    hconfined'.grows.part_of_eq h.refs' A (ht' v)
  refine ⟨⟨hconfined.refs, hconfined'.refs, hmerchants, ?_, ?_, ?_, ?_, h.fixed⟩, hconfined⟩
  · rw [hproviders, hproviders', h.providerAccounts]
  · intro v hv
    rw [hpart, hpart', h.part v hv]
  · intro v hv
    rw [hpart]
    exact h.injective v hv
  · intro v hv k
    rw [ht, ht']
    exact h.next v hv k

end Alike

end AgentPay
