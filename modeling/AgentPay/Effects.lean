import AgentPay.PaymentView

/-!
# What the statements do to the view of a payment

One lemma for each statement the payment paths are made of.
-/

namespace AgentPay

open Support

/-! ### Tables that no view reads -/

@[simp] lemma view_outboxEvents (db : Db) (events : List OutboxEvent) (p : PaymentId) :
    view { db with outboxEvents := events } p = view db p := rfl

@[simp] lemma view_budgets (db : Db) (budgets : List Budget) (p : PaymentId) :
    view { db with budgets := budgets } p = view db p := rfl

lemma Db.Sound.outboxEvents {db : Db} (h : db.Sound) (events : List OutboxEvent) :
    ({ db with outboxEvents := events } : Db).Sound := ⟨h.1, h.2, h.3, h.4, h.5, h.6, h.7⟩

lemma Db.Sound.budgets {db : Db} (h : db.Sound) (budgets : List Budget) :
    ({ db with budgets := budgets } : Db).Sound := ⟨h.1, h.2, h.3, h.4, h.5, h.6, h.7⟩

lemma Effect.enqueue {p : PaymentId} {f : PaymentView → PaymentView} {db db' : Db}
    (h : Effect p f db db') (event : OutboxEvent) : Effect p f db (enqueue db' event) :=
  ⟨h.here, h.others, h.sound.outboxEvents _⟩

/-! ### Payments -/

/-- A rewrite of payment rows that leaves the request alone keeps the references. -/
lemma Db.Sound.updatePayment {db : Db} (h : db.Sound) (p : PaymentId) (f : Payment → Payment)
    (hf : ∀ r, (f r).key = r.key) :
    ({ db with payments := db.payments.update p f hf } : Db).Sound where
  request q payment hq := by
    rw [Table.get?_update] at hq
    split_ifs at hq
    · obtain ⟨payment₀, h₀, rfl⟩ := Option.map_eq_some_iff.mp hq
      have hkey : (f payment₀).paymentRequestId = payment₀.paymentRequestId := by
        simpa [Payment.key] using hf payment₀
      rw [hkey]
      exact h.request q payment₀ h₀
    · exact h.request q payment hq
  reservation := h.reservation
  linked := h.linked
  operation := by simpa using h.operation
  transaction := by simpa using h.transaction
  journal := by simpa using h.journal
  approval := h.approval

/-- A rewrite of the payment row shows in the view of that payment. -/
lemma Effect.updatePayment {db : Db} (h : db.Sound) (p : PaymentId) (f : Payment → Payment)
    (hf : ∀ r, (f r).key = r.key) (g : PaymentView → PaymentView)
    (hg : ∀ payment request, viewOf db p (f payment) request = g (viewOf db p payment request)) :
    Effect p g db { db with payments := db.payments.update p f hf } where
  here := by
    simp only [view, Table.get?_update_self]
    cases hp : db.payments.get? p with
    | none => rfl
    | some payment =>
      have hkey : (f payment).paymentRequestId = payment.paymentRequestId := by
        simpa using hf payment
      simp only [Option.map_some, Option.bind_some, hkey]
      cases hr : db.paymentRequests.get? payment.paymentRequestId with
      | none => rfl
      | some request => exact congrArg some (hg payment request)
  others q hq := by
    simp only [view, Table.get?_update_ne _ hq.symm]
    rfl
  sound := h.updatePayment p f hf

/-- `update_status` rewrites the status. -/
lemma Effect.updateStatus {db : Db} (h : db.Sound) (p : PaymentId) (status : PaymentStatus)
    (providerReference : Option String) :
    Effect p (fun v => { v with status })
      db (PaymentRepository.updateStatus db p status providerReference) :=
  .updatePayment h p _ _ _ fun _ _ => rfl

/-- The link to the newest operation is not part of the view. -/
lemma Effect.setProviderOperation {db : Db} (h : db.Sound) (p : PaymentId)
    (operationId : OperationId) :
    Effect p id db (PaymentRepository.setProviderOperation db p operationId) :=
  .updatePayment h p _ _ _ fun _ _ => rfl

/-! ### Provider operations -/

/-- Replacing the operations changes the charges. -/
lemma Effect.operations {db : Db} (h : db.Sound) {p : PaymentId}
    {operations : Table ProviderOperation ProviderOperation.key}
    (hrows : ∀ o ∈ operations.rows, o.Filed ∧ o.paymentId < db.payments.nextId)
    (hother : ∀ q, q ≠ p → (operations.row? (.charge q)).map (·.completed) =
      (db.providerOperations.row? (.charge q)).map (·.completed)) :
    Effect p (fun v => { v with charge := (operations.row? (.charge p)).map (·.completed) })
      db { db with providerOperations := operations } where
  here := view_of_eq rfl rfl fun _ _ _ _ => rfl
  others q hq := by
    refine view_congr rfl rfl fun payment request _ _ => ?_
    simp only [viewOf, hother q hq]
    rfl
  sound := ⟨h.1, h.2, h.3, hrows, h.5, h.6, h.7⟩

lemma ProviderOperation.Filed.new (p : PaymentId) (type : OperationType) {key : OperationKey}
    (hp : key.paymentId = p) (ht : key.operationType = type) :
    (PaymentRepository.newOperation p type key).Filed :=
  ⟨hp.symm, ht.symm, fun _ => rfl⟩

/-- What `create_provider_operation` does: a new PENDING operation under a free key, or nothing
but the payment's link to the operation that holds the key. -/
lemma PaymentRepository.createProviderOperation_eq_ok {db db' : Db} {p : PaymentId}
    {type : OperationType} {key : OperationKey} {id : OperationId} :
    createProviderOperation db p type key = .ok (id, db') →
    (∃ operations, db.providerOperations.row? key = none ∧
      operations.rows = db.providerOperations.rows ++ [newOperation p type key] ∧
      db' = setProviderOperation { db with providerOperations := operations } p id) ∨
    ((db.providerOperations.row? key).isSome ∧ db' = setProviderOperation db p id) := by
  intro hrun
  simp only [createProviderOperation] at hrun
  cases hins : db.providerOperations.insert? (newOperation p type key) with
  | some operations =>
    rw [hins] at hrun
    obtain ⟨rfl, rfl⟩ := by simpa using hrun
    obtain ⟨hnone, hrows⟩ := Table.row?_of_insert? hins rfl
    exact .inl ⟨operations, hnone, hrows, rfl⟩
  | none =>
    rw [hins] at hrun
    cases hfind : db.providerOperations.find? key with
    | none => simp [hfind] at hrun
    | some found =>
      simp only [hfind] at hrun
      split_ifs at hrun
      obtain ⟨rfl, rfl⟩ := by simpa using hrun
      exact .inr ⟨by simp [Table.row?, hfind], rfl⟩

/-- Whether the payment has a charge is all `create_provider_operation` can change. -/
lemma Effect.createProviderOperation {db db' : Db} (h : db.Sound) {p : PaymentId}
    (hp : p < db.payments.nextId) {k : OperationKey} (hkey : k.paymentId = p)
    {id : OperationId}
    (hrun : PaymentRepository.createProviderOperation db p k.operationType k =
      .ok (id, db')) :
    Effect p (fun v => { v with charge := if k = .charge p then some (v.charge.getD false)
                                          else v.charge }) db db' := by
  rcases PaymentRepository.createProviderOperation_eq_ok hrun with
    ⟨operations, hnone, hrows, rfl⟩ | ⟨hsome, rfl⟩
  · have hrow := Table.row?_of_rows_append hrows
    have hops : Effect p (fun v => { v with
        charge := (operations.row? (.charge p)).map (·.completed) })
        db { db with providerOperations := operations } := by
      refine Effect.operations h ?_ ?_
      · intro o ho
        rw [hrows, List.mem_append, List.mem_singleton] at ho
        rcases ho with ho | rfl
        · exact h.operation o ho
        · exact ⟨.new p _ hkey rfl, hp⟩
      · intro q hq
        have hne : k ≠ .charge q := by
          rintro rfl
          exact hq hkey
        rw [hrow, if_neg (by simpa [ProviderOperation.key, PaymentRepository.newOperation])]
    refine (hops.trans (Effect.setProviderOperation hops.sound p id)).congr fun v hv => ?_
    have hcharge := (view_tables hv).1
    by_cases hk : k = .charge p
    · subst hk
      simp [hrow, ProviderOperation.key, PaymentRepository.newOperation, hcharge, hnone]
    · simp [hrow, ProviderOperation.key, PaymentRepository.newOperation, hk, hcharge]
  · refine (Effect.setProviderOperation h p id).congr fun v hv => ?_
    have hcharge := (view_tables hv).1
    split_ifs with hk
    · subst hk
      obtain ⟨o, ho⟩ := Option.isSome_iff_exists.mp hsome
      rw [ho] at hcharge
      cases v
      simp_all
    · rfl

/-- An operation of type CHARGE is filed under its payment's charge key. -/
lemma ProviderOperation.Filed.key_eq_charge {o : ProviderOperation} (h : o.Filed)
    (ht : o.operationType = .charge) : o.idempotencyKey = .charge o.paymentId := by
  have htype := h.type
  have hpayment := h.payment
  cases hk : o.idempotencyKey <;>
    simp_all [OperationKey.operationType, OperationKey.paymentId]

/-- The updates by payment and type reach exactly the operation under the charge key. -/
lemma Effect.updateCharges {db : Db} (h : db.Sound) (p : PaymentId)
    (f : ProviderOperation → ProviderOperation) (hf : ∀ o, (f o).key = o.key) (g : Bool → Bool)
    (hpayment : ∀ o, (f o).paymentId = o.paymentId)
    (htype : ∀ o, (f o).operationType = o.operationType)
    (hg : ∀ o, (f o).completed = g o.completed) :
    Effect p (fun v => { v with charge := v.charge.map g })
      db (PaymentOrchestrator.updateCharges db p f hf) := by
  have hrow : ∀ q, ((db.providerOperations.updateWhere
      (fun o => decide (o.paymentId = p) && decide (o.operationType = .charge)) f hf).row?
        (.charge q)).map (·.completed) =
      if q = p then ((db.providerOperations.row? (.charge q)).map (·.completed)).map g
      else (db.providerOperations.row? (.charge q)).map (·.completed) := by
    intro q
    rw [Table.row?_updateWhere]
    cases ho : db.providerOperations.row? (.charge q) with
    | none => simp
    | some o =>
      obtain ⟨hmem, hkey⟩ := Table.row?_eq_some.mp ho
      have hfiled := (h.operation o hmem).1
      have hk : o.idempotencyKey = .charge q := by simpa using hkey
      have hp : o.paymentId = q := by rw [hfiled.payment, hk]; rfl
      have ht : o.operationType = .charge := by rw [hfiled.type, hk]; rfl
      by_cases hq : q = p
      · simp [hp, ht, hq, hg]
      · simp [hp, hq]
  refine (Effect.operations h ?_ ?_).congr fun v hv => ?_
  · intro o ho
    simp only [Table.rows_updateWhere, List.mem_map] at ho
    obtain ⟨o₀, ho₀, rfl⟩ := ho
    obtain ⟨hfiled, hlt⟩ := h.operation o₀ ho₀
    split_ifs with hsel
    · simp only [Bool.and_eq_true, decide_eq_true_eq] at hsel
      have hkey : (f o₀).idempotencyKey = o₀.idempotencyKey := by simpa using hf o₀
      refine ⟨⟨?_, ?_, ?_⟩, by rwa [hpayment]⟩
      · rw [hpayment, hkey, hfiled.payment]
      · rw [htype, hkey, hfiled.type]
      · intro hne
        exact absurd (by rw [htype, hsel.2]) hne
    · exact ⟨hfiled, hlt⟩
  · intro q hq
    rw [hrow, if_neg hq]
  · rw [hrow, if_pos rfl, (view_tables hv).1]

/-- A definitive outcome completes the charge. -/
lemma Effect.decideOperation {db : Db} (h : db.Sound) {id : OperationId} {o : ProviderOperation}
    (ho : db.providerOperations.get? id = some o) (ht : o.operationType = .charge)
    (status : OperationStatus) (providerReference : Option String) :
    Effect o.paymentId (fun v => { v with charge := some true })
      db (ProviderEventResolver.decideOperation db id status providerReference) := by
  have hfiled := (h.operation o (Table.mem_of_get? ho)).1
  have hkey := hfiled.key_eq_charge ht
  have hrow := Table.row?_update ho (congrArg some hkey)
    (PaymentOrchestrator.decided status providerReference) fun _ => rfl
  refine (Effect.operations h ?_ ?_).congr fun v _ => ?_
  · intro o' ho'
    rcases mem_modify ho' with hmem | ⟨o₀, ho₀, rfl⟩
    · exact h.operation o' hmem
    · obtain rfl : o₀ = o := by simpa [Table.get?, ho₀] using ho
      refine ⟨⟨hfiled.payment, hfiled.type, fun hne => absurd ht hne⟩, ?_⟩
      exact (h.operation o₀ (Table.mem_of_get? ho)).2
  · intro q hq
    rw [hrow, if_neg (by simpa using hq)]
  · rw [hrow, if_pos rfl]
    rfl

/-! ### Reservations -/

/-- What `consume` and `release` do to a status: only RESERVED moves. -/
def ReservationStatus.settle (s status : ReservationStatus) : ReservationStatus :=
  if s = .reserved then status else s

/-- `consume` and `release` touch the reservation and the budgets. -/
lemma BudgetRepository.settle_eq_ok {db db' : Db} {id : ReservationId}
    {status : ReservationStatus} {f : Budget → Amount → Except Error Budget}
    (hrun : settle db id status f = .ok db') :
    ∃ row budgets, db.budgetReservations.get? id = some row ∧
      db' = { setReservationStatus db id (row.status.settle status) with budgets } := by
  simp only [settle] at hrun
  cases hrow : db.budgetReservations.get? id with
  | none => simp [hrow] at hrun
  | some row =>
    simp only [hrow] at hrun
    split_ifs at hrun with hres
    · have hself : row.status.settle status = row.status := if_neg hres
      obtain rfl : db = db' := by simpa using hrun
      refine ⟨row, db.budgets, rfl, ?_⟩
      rw [hself, setReservationStatus, Table.update_eq_self hrow _ rfl]
    · have hres' : row.status = .reserved := not_not.mp hres
      simp only [updateBudget] at hrun
      have hset : row.status.settle status = status := if_pos hres'
      rw [← hset] at hrun
      split at hrun
      · obtain rfl := Except.ok.inj hrun
        exact ⟨row, _, rfl, rfl⟩
      · obtain ⟨row', -, hrun⟩ := Except.bind_eq_ok.mp hrun
        obtain rfl := Except.ok.inj hrun
        exact ⟨row, _, rfl, rfl⟩

/-- Two payments never share a request. -/
lemma payment_unique {db : Db} {p q : PaymentId} {x y : Payment}
    (hp : db.payments.get? p = some x) (hq : db.payments.get? q = some y)
    (h : x.paymentRequestId = y.paymentRequestId) : p = q :=
  Table.id_unique hp hq rfl (congrArg some h.symm)

/-- `consume` and `release` settle the reservation of the payment that holds it. -/
lemma Effect.settle {db db' : Db} (h : db.Sound) {p : PaymentId} {v : PaymentView}
    (hv : view db p = some v) {id : ReservationId} {s status : ReservationStatus}
    (hres : v.reservation = some (id, s)) {f : Budget → Amount → Except Error Budget}
    (hrun : BudgetRepository.settle db id status f = .ok db') :
    Effect p (fun v => { v with reservation := some (id, s.settle status) }) db db' := by
  obtain ⟨row, budgets, hrow, rfl⟩ := BudgetRepository.settle_eq_ok hrun
  obtain ⟨payment, request, hp, hr, rfl⟩ := view_eq_some.mp hv
  have hlink : request.budgetReservationId = some id ∧ row.status = s := by
    simp only [viewOf, reservationView, Option.bind_eq_bind, Option.bind_eq_some_iff,
      Option.pure_def, Option.some.injEq, Prod.mk.injEq] at hres
    obtain ⟨id', hid, row', hrow', rfl, rfl⟩ := hres
    rw [hrow, Option.some.injEq] at hrow'
    exact ⟨hid, by rw [hrow']⟩
  obtain ⟨hlink, rfl⟩ := hlink
  have howner : row.paymentRequestId = payment.paymentRequestId := by
    obtain ⟨row', hrow', howner⟩ := h.reservation _ _ _ hr hlink
    rw [hrow, Option.some.injEq] at hrow'
    rw [hrow', howner]
  refine ⟨?_, ?_, ?_⟩
  · refine view_of_eq rfl rfl fun payment' request' hp' hr' => ?_
    obtain rfl : payment = payment' := by simpa [hp] using hp'
    obtain rfl : request = request' := by simpa [hr] using hr'
    have hres' : reservationView { BudgetRepository.setReservationStatus db id
        (row.status.settle status) with budgets } request =
        some (id, row.status.settle status) := by
      simp [reservationView, BudgetRepository.setReservationStatus, hlink, hrow]
    simp only [viewOf, hres']
    rfl
  · intro q hq
    refine view_congr rfl rfl fun payment' request' hp' hr' => ?_
    have hres' : reservationView { BudgetRepository.setReservationStatus db id
        (row.status.settle status) with budgets } request' = reservationView db request' := by
      simp only [reservationView, BudgetRepository.setReservationStatus]
      cases hid' : request'.budgetReservationId with
      | none => rfl
      | some id' =>
        have hne : id ≠ id' := by
          rintro rfl
          obtain ⟨row', hrow', howner'⟩ := h.reservation _ _ _ hr' hid'
          rw [hrow, Option.some.injEq] at hrow'
          rw [← hrow', howner] at howner'
          exact hq (payment_unique hp' hp howner'.symm)
        simp [Table.get?_update_ne _ hne]
    simp only [viewOf, hres']
    rfl
  · refine ⟨h.1, ?_, ?_, h.4, h.5, h.6, h.7⟩
    · intro i request' r hr' hid
      obtain ⟨row', hrow', howner'⟩ := h.reservation i request' r hr' hid
      simp only [BudgetRepository.setReservationStatus, Table.get?_update]
      split_ifs
      · exact ⟨{ row' with status := row.status.settle status }, by rw [hrow', Option.map_some],
          howner'⟩
      · exact ⟨row', hrow', howner'⟩
    · intro r row' hrow'
      simp only [BudgetRepository.setReservationStatus, Table.get?_update] at hrow'
      split_ifs at hrow'
      · obtain ⟨row₀, hrow₀, rfl⟩ := Option.map_eq_some_iff.mp hrow'
        exact h.linked r row₀ hrow₀
      · exact h.linked r row' hrow'

/-! ### Transactions -/

/-- The view with one more transaction. -/
def TransactionView.add (v : TransactionView) (t : Transaction) : TransactionView where
  capture path := v.capture path || decide (t.idempotencyKey = path.key t.paymentId)
  refund k := if t.idempotencyKey = .refund t.paymentId k.1 k.2 then some t.status else v.refund k
  captures := v.captures + if t.type = .capture ∧ t.status = .posted then 1 else 0
  captured := v.captured + if t.type = .capture ∧ t.status = .posted then t.amount.units else 0
  refunded := v.refunded + if t.type = .refund ∧ t.status = .posted then t.amount.units else 0

/-- The insert of a transaction under a free key. -/
def Db.Files (db db' : Db) (t : Transaction) : Prop :=
  db.transactions.row? t.idempotencyKey = none ∧
    ∃ transactions, transactions.rows = db.transactions.rows ++ [t] ∧
      db' = { db with transactions }

lemma CapturePath.key_paymentId (p : PaymentId) (path : CapturePath) :
    (path.key p).paymentId = p := by
  cases path <;> rfl

lemma transactionView_of_files {db db' : Db} {t : Transaction} (ht : t.Filed)
    (h : db.Files db' t) (q : PaymentId) :
    transactionView db' q =
      if t.paymentId = q then (transactionView db q).add t else transactionView db q := by
  obtain ⟨-, transactions, hrows, rfl⟩ := h
  have hrow := Table.row?_of_rows_append hrows
  split_ifs with hq
  · subst hq
    simp only [transactionView, TransactionView.add, postedCount, PaymentLifecycle.postedSum,
      hrows, List.map_append, List.map_cons, List.map_nil, List.sum_append, List.sum_cons,
      List.sum_nil, add_zero, true_and, hrow, TransactionView.mk.injEq, and_true]
    refine ⟨funext fun path => ?_, funext fun k => ?_⟩
    · by_cases hk : t.idempotencyKey = path.key t.paymentId <;> simp [hk]
    · by_cases hk : t.idempotencyKey = .refund t.paymentId k.1 k.2 <;> simp [hk]
  · have hcap : ∀ path : CapturePath, t.idempotencyKey ≠ path.key q := by
      intro path hk
      exact hq (by rw [ht.payment, hk, CapturePath.key_paymentId])
    have href : ∀ k : Decimal × String, t.idempotencyKey ≠ .refund q k.1 k.2 := by
      intro k hk
      exact hq (by rw [ht.payment, hk]; rfl)
    simp [transactionView, postedCount, PaymentLifecycle.postedSum, hrows, hrow, hq, hcap, href]

/-- Replacing the transactions changes what they say. -/
lemma Effect.transactions {db : Db} (h : db.Sound) {p : PaymentId}
    {transactions : Table Transaction Transaction.key}
    (hrows : ∀ t ∈ transactions.rows, t.Filed ∧ t.paymentId < db.payments.nextId)
    (hother : ∀ q, q ≠ p →
      transactionView { db with transactions } q = transactionView db q) :
    Effect p (fun v => { v with transactions := transactionView { db with transactions } p })
      db { db with transactions } where
  here := view_of_eq rfl rfl fun _ _ _ _ => rfl
  others q hq := by
    refine view_congr rfl rfl fun payment request _ _ => ?_
    simp only [viewOf, hother q hq]
    rfl
  sound := ⟨h.1, h.2, h.3, h.4, hrows, h.6, h.7⟩

lemma Effect.files {db db' : Db} (h : db.Sound) {t : Transaction} (ht : t.Filed)
    (hp : t.paymentId < db.payments.nextId) (hfiles : db.Files db' t) :
    Effect t.paymentId (fun v => { v with transactions := v.transactions.add t }) db db' := by
  have htx := transactionView_of_files ht hfiles
  obtain ⟨-, transactions, hrows, rfl⟩ := hfiles
  refine (Effect.transactions h ?_ ?_).congr fun v hv => ?_
  · intro t' ht'
    rw [hrows, List.mem_append, List.mem_singleton] at ht'
    rcases ht' with ht' | rfl
    · exact h.transaction t' ht'
    · exact ⟨ht, hp⟩
  · intro q hq
    rw [htx, if_neg hq.symm]
  · rw [htx, if_pos rfl, (view_tables hv).2.2.1]

/-- The insert both create functions and the upsert share. -/
lemma files_of_insert? {db : Db} {t : Transaction} {transactions}
    (h : db.transactions.insert? t = some transactions) :
    db.Files { db with transactions } t := by
  obtain ⟨hnone, hrows⟩ := Table.row?_of_insert? h rfl
  exact ⟨hnone, transactions, hrows, rfl⟩

/-- `lifecycle._create_transaction`: the row that holds the key, or a new one. -/
lemma PaymentLifecycle.createTransaction_eq_ok {db db' : Db} {p : PaymentId}
    {type : TransactionType} {amount : Decimal} {currency : String} {key : TransactionKey}
    {status : TransactionStatus} {id : TransactionId}
    (h : createTransaction db p type amount currency key status = .ok (id, db')) :
    (∃ t, db.transactions.get? id = some t ∧ t.idempotencyKey = key ∧ db' = db) ∨
    ∃ stored, Amount.store amount = .ok stored ∧ id = db.transactions.nextId ∧
      db.Files db' (newTransaction p type stored currency key status) := by
  simp only [createTransaction] at h
  cases hid : db.transactions.idOf? key with
  | some id' =>
    simp only [hid, Except.ok.injEq, Prod.mk.injEq] at h
    obtain ⟨rfl, rfl⟩ := h
    obtain ⟨t, ht, hk⟩ := Table.idOf?_get? hid
    exact .inl ⟨t, ht, by simpa using hk, rfl⟩
  | none =>
    simp only [hid] at h
    obtain ⟨stored, hstore, h⟩ := Except.bind_eq_ok.mp h
    split at h
    · simp [throw, throwThe, MonadExceptOf.throw] at h
    · rename_i transactions hins
      obtain ⟨rfl, rfl⟩ := by simpa [pure, Except.pure] using h
      exact .inr ⟨stored, hstore, rfl, files_of_insert? hins⟩

/-- The resolver's `_create_transaction`. -/
lemma ProviderEventResolver.createTransaction_eq_ok {db db' : Db} {p : PaymentId}
    {amount : Decimal} {currency : String} {reference : Option String} {id : TransactionId}
    (h : createTransaction db p amount currency reference = .ok (id, db')) :
    (∃ t, db.transactions.get? id = some t ∧ t.idempotencyKey = .eventCapture p ∧ db' = db) ∨
    ∃ stored, Amount.store amount = .ok stored ∧ id = db.transactions.nextId ∧
      db.Files db' { paymentId := p, type := .capture, status := .posted, amount := stored,
                     currency, externalReference := reference,
                     idempotencyKey := .eventCapture p } := by
  simp only [createTransaction] at h
  cases hid : db.transactions.idOf? (.eventCapture p) with
  | some id' =>
    simp only [hid, Except.ok.injEq, Prod.mk.injEq] at h
    obtain ⟨rfl, rfl⟩ := h
    obtain ⟨t, ht, hk⟩ := Table.idOf?_get? hid
    exact .inl ⟨t, ht, by simpa using hk, rfl⟩
  | none =>
    simp only [hid] at h
    obtain ⟨stored, hstore, h⟩ := Except.bind_eq_ok.mp h
    split at h
    · simp [throw, throwThe, MonadExceptOf.throw] at h
    · rename_i transactions hins
      obtain ⟨rfl, rfl⟩ := by simpa [pure, Except.pure] using h
      exact .inr ⟨stored, hstore, rfl, files_of_insert? hins⟩

/-- A row under a capture key is POSTED already. -/
lemma postTransaction_eq_self {db : Db} (hs : db.Sound) {id : TransactionId} {t : Transaction}
    (ht : db.transactions.get? id = some t) {p : PaymentId} (path : CapturePath)
    (hkey : t.idempotencyKey = path.key p) : postTransaction db id = db := by
  have hallows := (hs.transaction t (Table.mem_of_get? ht)).1.status
  rw [hkey] at hallows
  have hposted : t.status = .posted := by
    cases path <;> exact hallows
  rw [postTransaction, Table.update_eq_self ht _ (by rw [← hposted])]

/-- The upsert of `finalize`: the existing row is POSTED already. -/
lemma PaymentOrchestrator.upsertCapture_eq_ok {db db' : Db} (hs : db.Sound) {p : PaymentId}
    {amount : Decimal} {currency : String} {id : TransactionId}
    (h : upsertCapture db p amount currency = .ok (id, db')) :
    ((db.transactions.row? (.capture p)).isSome ∧ db' = db) ∨
    ∃ stored, Amount.store amount = .ok stored ∧
      db.Files db' { paymentId := p, type := .capture, status := .posted, amount := stored,
                     currency, externalReference := none, idempotencyKey := .capture p } := by
  simp only [upsertCapture] at h
  obtain ⟨stored, hstore, h⟩ := Except.bind_eq_ok.mp h
  split at h
  · rename_i transactions hins
    obtain ⟨-, rfl⟩ := by simpa [pure, Except.pure] using h
    exact .inr ⟨stored, hstore, files_of_insert? hins⟩
  · split at h
    · simp [throw, throwThe, MonadExceptOf.throw] at h
    · rename_i id' hid
      obtain ⟨-, rfl⟩ := by simpa [pure, Except.pure] using h
      obtain ⟨t, hrow, ht⟩ := Table.row?_of_idOf? hid
      have hkey : t.idempotencyKey = .capture p := by
        simpa using (Table.row?_eq_some.mp hrow).2
      exact .inl ⟨by simp [hrow], postTransaction_eq_self hs ht .direct hkey⟩

/-- One POSTED capture under the key of `path`; a second one is the same row. -/
def TransactionView.postCapture (path : CapturePath) (amount : Amount) (v : TransactionView) :
    TransactionView :=
  if v.capture path then v
  else { v with
    capture := Function.update v.capture path true
    captures := v.captures + 1
    captured := v.captured + amount.units }

lemma TransactionView.add_capture {v : TransactionView} {path : CapturePath} {t : Transaction}
    (hkey : t.idempotencyKey = path.key t.paymentId) (htype : t.type = .capture)
    (hstatus : t.status = .posted) (h : v.capture path = false) :
    v.add t = v.postCapture path t.amount := by
  have hrefund : ∀ k : Decimal × String,
      t.idempotencyKey ≠ .refund t.paymentId k.1 k.2 := by
    intro k
    rw [hkey]
    cases path <;> simp [CapturePath.key]
  have hcapture : (fun path' => v.capture path' ||
      decide (t.idempotencyKey = path'.key t.paymentId)) =
      Function.update v.capture path true := by
    funext path'
    rw [hkey]
    cases path <;> cases path' <;> simp_all [CapturePath.key]
  simp [TransactionView.add, postCapture, h, htype, hstatus, hcapture, hrefund]

/-- A refund row under its key. -/
def TransactionView.putRefund (k : Decimal × String) (status : TransactionStatus)
    (amount : Amount) (v : TransactionView) : TransactionView :=
  { v with
    refund := Function.update v.refund k (some status)
    refunded := v.refunded + if status = .posted then amount.units else 0 }

lemma TransactionView.add_refund {v : TransactionView} {k : Decimal × String} {t : Transaction}
    (hkey : t.idempotencyKey = .refund t.paymentId k.1 k.2) (htype : t.type = .refund) :
    v.add t = v.putRefund k t.status t.amount := by
  have hcapture : ∀ path : CapturePath, t.idempotencyKey ≠ path.key t.paymentId := by
    intro path
    rw [hkey]
    cases path <;> simp [CapturePath.key]
  have hrefund : (fun k' : Decimal × String =>
      if t.idempotencyKey = .refund t.paymentId k'.1 k'.2 then some t.status else v.refund k') =
      Function.update v.refund k (some t.status) := by
    funext k'
    rw [hkey, Function.update_apply]
    by_cases hk : k' = k
    · simp [hk]
    · have hne : ¬ (k.1 = k'.1 ∧ k.2 = k'.2) := fun h => hk (Prod.ext h.1.symm h.2.symm)
      simp [hk, hne]
  simp [TransactionView.add, putRefund, htype, hrefund, hcapture]

/-- `UPDATE transactions SET status=…` on a refund that is still PENDING. -/
lemma Effect.settleRefund {db : Db} (h : db.Sound) {id : TransactionId} {t : Transaction}
    (hget : db.transactions.get? id = some t) {k : Decimal × String}
    (hkey : t.idempotencyKey = .refund t.paymentId k.1 k.2) (hpending : t.status = .pending)
    (status : TransactionStatus) :
    Effect t.paymentId
      (fun v => { v with transactions := v.transactions.putRefund k status t.amount })
      db (PaymentLifecycle.setTransactionStatus db id status) := by
  obtain ⟨hfiled, hlt⟩ := h.transaction t (Table.mem_of_get? hget)
  have htype : t.type = .refund := by rw [hfiled.type, hkey]; rfl
  have hrow := Table.row?_update hget (congrArg some hkey) (fun t => { t with status })
    fun _ => rfl
  have hsum := fun g : Transaction → ℕ => sum_map_modify g (fun t => { t with status }) hget
  have hview : ∀ q, transactionView (PaymentLifecycle.setTransactionStatus db id status) q =
      if q = t.paymentId then (transactionView db q).putRefund k status t.amount
      else transactionView db q := by
    intro q
    have hcapture : ∀ path : CapturePath, path.key q ≠ .refund t.paymentId k.1 k.2 := by
      intro path
      cases path <;> simp [CapturePath.key]
    have hcaptures := hsum fun t =>
      if t.paymentId = q ∧ t.type = .capture ∧ t.status = .posted then 1 else 0
    have hcaptured := hsum fun t =>
      if t.paymentId = q ∧ t.type = .capture ∧ t.status = .posted then t.amount.units else 0
    have hrefunded := hsum fun t =>
      if t.paymentId = q ∧ t.type = .refund ∧ t.status = .posted then t.amount.units else 0
    simp only [htype, hpending, reduceCtorEq, false_and, and_false, if_false, add_zero]
      at hcaptures hcaptured hrefunded
    split_ifs with hq
    · subst hq
      simp only [transactionView, PaymentLifecycle.setTransactionStatus, TransactionView.putRefund,
        postedCount, PaymentLifecycle.postedSum, Table.rows_update, hcaptures, hcaptured, hrow,
        if_neg (hcapture _), true_and] at hrefunded ⊢
      refine TransactionView.mk.injEq .. ▸ ⟨rfl, funext fun k' => ?_, rfl, rfl, hrefunded⟩
      rw [Function.update_apply]
      by_cases hk : k' = k
      · simp [hk]
      · have hne : ¬ (k'.1 = k.1 ∧ k'.2 = k.2) := fun h => hk (Prod.ext h.1 h.2)
        simp [hk, hne]
    · have hne : t.paymentId ≠ q := fun h => hq h.symm
      simp only [hne, false_and, if_false, add_zero] at hrefunded
      simp [transactionView, PaymentLifecycle.setTransactionStatus, postedCount,
        PaymentLifecycle.postedSum, hcaptures, hcaptured, hrefunded, hrow, hq, hcapture]
  refine (Effect.transactions h ?_ ?_).congr fun v hv => ?_
  · intro t' ht'
    rcases mem_modify ht' with hmem | ⟨t₀, ht₀, rfl⟩
    · exact h.transaction t' hmem
    · obtain rfl : t₀ = t := by simpa [Table.get?, ht₀] using hget
      exact ⟨⟨hfiled.payment, hfiled.type, by rw [hkey]; trivial, hfiled.amount⟩, hlt⟩
  · intro q hq
    exact (hview q).trans (if_neg hq)
  · have := (hview t.paymentId).trans (if_pos rfl)
    simp only [PaymentLifecycle.setTransactionStatus] at this
    rw [this, (view_tables hv).2.2.1]

/-! ### Journals -/

/-- The capture journal, posted once. -/
def JournalView.postCapture (amount : Amount) (v : JournalView) : JournalView :=
  if v.capture then v else { v with capture := true, debited := v.debited + amount.units }

/-- A refund journal, posted once per key. -/
def JournalView.postRefund (k : Decimal × String) (amount : Amount) (v : JournalView) :
    JournalView :=
  if v.refund k then v
  else { v with
    refund := Function.update v.refund k true
    credited := v.credited + amount.units }

lemma journalView_append {db : Db} {journals : Table LedgerJournal LedgerJournal.key}
    {j : LedgerJournal} (hrows : journals.rows = db.ledgerJournals.rows ++ [j]) (q : PaymentId) :
    journalView { db with ledgerJournals := journals } q =
      { capture := (journalView db q).capture || decide (j.idempotencyKey = .capture q)
        refund := fun k =>
          (journalView db q).refund k || decide (j.idempotencyKey = .refund q k.1 k.2)
        debited := (journalView db q).debited + j.captureDebit q
        credited := (journalView db q).credited + j.refundCredit q } := by
  have hrow := Table.row?_of_rows_append hrows
  simp only [journalView, hrow, hrows, List.map_append, List.map_cons, List.map_nil,
    List.sum_append, List.sum_cons, List.sum_nil, add_zero, JournalView.mk.injEq, and_true]
  refine ⟨?_, funext fun k => ?_⟩
  · by_cases hk : j.idempotencyKey = .capture q <;> simp [hk]
  · by_cases hk : j.idempotencyKey = .refund q k.1 k.2 <;> simp [hk]

/-- Appending a journal changes what the journals say about its payment. -/
lemma Effect.journal {db : Db} (h : db.Sound)
    {journals : Table LedgerJournal LedgerJournal.key} {j : LedgerJournal}
    (hrows : journals.rows = db.ledgerJournals.rows ++ [j]) {p : PaymentId}
    (hkey : j.idempotencyKey.paymentId = p) (hp : p < db.payments.nextId) :
    Effect p
      (fun v => { v with journals := journalView { db with ledgerJournals := journals } p })
      db { db with ledgerJournals := journals } where
  here := view_of_eq rfl rfl fun _ _ _ _ => rfl
  others q hq := by
    refine view_congr rfl rfl fun payment request _ _ => ?_
    have hcapture : j.idempotencyKey ≠ .capture q := fun hk => hq (by rw [← hkey, hk]; rfl)
    have hrefund : ∀ k : Decimal × String, j.idempotencyKey ≠ .refund q k.1 k.2 :=
      fun k hk => hq (by rw [← hkey, hk]; rfl)
    have hdebit : j.captureDebit q = 0 := by
      unfold LedgerJournal.captureDebit
      split
      · rename_i q' hk
        exact if_neg fun hq' => hcapture (hk.trans (by rw [hq']))
      · rfl
    have hcredit : j.refundCredit q = 0 := by
      unfold LedgerJournal.refundCredit
      split
      · rfl
      · rename_i q' a c hk
        exact if_neg fun hq' => hrefund (a, c) (hk.trans (by rw [hq']))
    simp only [viewOf, journalView_append hrows, hcapture, hrefund, hdebit, hcredit, decide_false,
      Bool.or_false, add_zero]
    rfl
  sound := by
    refine ⟨h.1, h.2, h.3, h.4, h.5, ?_, h.7⟩
    intro j' hj'
    rw [hrows, List.mem_append, List.mem_singleton] at hj'
    rcases hj' with hj' | rfl
    · exact h.journal j' hj'
    · rwa [hkey]

/-- `post_journal` of a payment's capture. -/
lemma Effect.captureJournal {db db' : Db} (h : db.Sound) {p : PaymentId}
    (hp : p < db.payments.nextId) {debitAccount creditAccount : LedgerAccountId}
    {amount : Decimal} {stored : Amount} (hstore : Amount.store amount = .ok stored)
    {currency : String} {reference : JournalReference} {id : ℕ}
    (hrun : postJournal db currency reference (.capture p)
      (transfer debitAccount creditAccount amount currency) = .ok (id, db')) :
    Effect p (fun v => { v with journals := v.journals.postCapture stored }) db db' := by
  obtain ⟨-, ⟨hid, rfl⟩ | ⟨hid, -, -, -, stored', journals, hstore', hins, rfl⟩⟩ :=
    postJournal_transfer_eq_ok.mp hrun
  · refine (Effect.refl p h).congr fun v hv => ?_
    obtain ⟨j, hj, -⟩ := Table.row?_of_idOf? hid
    have hcapture : v.journals.capture = true := by
      rw [(view_tables hv).2.2.2]
      simp [journalView, hj]
    simp [JournalView.postCapture, hcapture]
  · obtain rfl : stored = stored' := by
      rw [hstore] at hstore'
      exact Except.ok.inj hstore'
    obtain ⟨hnone, hrows⟩ := Table.row?_of_insert? hins rfl
    have hview := journalView_append hrows p
    refine (Effect.journal (p := p) h hrows rfl hp).congr fun v hv => ?_
    have hj := (view_tables hv).2.2.2
    have hcapture : v.journals.capture = false := by
      rw [hj]
      simp only [journalView, Option.isSome_eq_false_iff, Option.isNone_iff_eq_none]
      exact hnone
    congr 1
    refine hview.trans ?_
    rw [JournalView.postCapture, if_neg (by simp [hcapture]), hj]
    simp [transferJournal, LedgerJournal.captureDebit, LedgerJournal.refundCredit,
      LedgerJournal.total]

/-- `post_journal` of a refund. -/
lemma Effect.refundJournal {db db' : Db} (h : db.Sound) {p : PaymentId}
    (hp : p < db.payments.nextId) {k : Decimal × String}
    {debitAccount creditAccount : LedgerAccountId}
    {amount : Decimal} {stored : Amount} (hstore : Amount.store amount = .ok stored)
    {currency : String} {reference : JournalReference} {id : ℕ}
    (hrun : postJournal db currency reference (.refund p k.1 k.2)
      (transfer debitAccount creditAccount amount currency) = .ok (id, db')) :
    Effect p (fun v => { v with journals := v.journals.postRefund k stored }) db db' := by
  obtain ⟨-, ⟨hid, rfl⟩ | ⟨hid, -, -, -, stored', journals, hstore', hins, rfl⟩⟩ :=
    postJournal_transfer_eq_ok.mp hrun
  · refine (Effect.refl p h).congr fun v hv => ?_
    obtain ⟨j, hj, -⟩ := Table.row?_of_idOf? hid
    have hrefund : v.journals.refund k = true := by
      rw [(view_tables hv).2.2.2]
      simp [journalView, hj]
    simp [JournalView.postRefund, hrefund]
  · obtain rfl : stored = stored' := by
      rw [hstore] at hstore'
      exact Except.ok.inj hstore'
    obtain ⟨hnone, hrows⟩ := Table.row?_of_insert? hins rfl
    have hview := journalView_append hrows p
    refine (Effect.journal (p := p) h hrows rfl hp).congr fun v hv => ?_
    have hj := (view_tables hv).2.2.2
    have hrefund : v.journals.refund k = false := by
      rw [hj]
      simp only [journalView, Option.isSome_eq_false_iff, Option.isNone_iff_eq_none]
      exact hnone
    have hupdate : (fun k' : Decimal × String => (journalView db p).refund k' ||
        (decide (k.1 = k'.1) && decide (k.2 = k'.2))) =
        Function.update (journalView db p).refund k true := by
      funext k'
      rw [Function.update_apply, ← Bool.decide_and]
      by_cases hk : k' = k
      · simp [hk]
      · have hne : ¬ (k.1 = k'.1 ∧ k.2 = k'.2) := fun h => hk (Prod.ext h.1.symm h.2.symm)
        simp [hk, hne]
    congr 1
    refine hview.trans ?_
    rw [JournalView.postRefund, if_neg (by simp [hrefund]), hj]
    simp [transferJournal, LedgerJournal.captureDebit, LedgerJournal.refundCredit,
      LedgerJournal.total, hupdate]

end AgentPay
