import AgentPay.BudgetRows

/-!
# Creating provider operations, statement by statement

`create_provider_operation` in any number of transactions at once, over any kind of key and type.
The insert waits while another transaction has inserted the key and has not ended, and does nothing
when the key is taken; the second read locks the row that holds the key. A transaction that is alone
does what the function of the repository does.
-/

namespace AgentPay

open Support RowLock

/-! ### Transactions -/

/-- A call of `create_provider_operation`, and the columns of the row it inserts. -/
structure OperationCall (κ ο : Type) where
  paymentId : PaymentId
  operationType : ο
  idempotencyKey : κ
  deriving DecidableEq, Repr

/-- How far the call a transaction is in has come. -/
inductive CallProgress (κ ο : Type) where
  /-- Between two calls. -/
  | idle
  /-- The insert has done nothing. -/
  | conflicted (call : OperationCall κ ο)
  /-- The row of the call is inserted, or found and locked. -/
  | holding (operationId : OperationId) (call : OperationCall κ ο)
  /-- A statement has failed. -/
  | aborted
  deriving DecidableEq, Repr

/-- What a call has returned or raised. -/
structure CallResult (κ ο : Type) where
  transaction : TransactionNo
  call : OperationCall κ ο
  result : Except Error OperationId

/-- The operations, and the `provider_operation_id` of every payment, as every transaction sees
them; the calls in progress; and what the calls that have ended gave. -/
structure OperationRows (κ ο : Type) where
  operations : List (Cell TransactionNo (Option (OperationCall κ ο)))
  payments : List (Cell TransactionNo (Option OperationId))
  calls : TransactionNo → CallProgress κ ο
  results : List (CallResult κ ο)

/-- One statement of a transaction, or its end. -/
inductive OperationStatement (κ ο : Type) where
  | insert (transaction : TransactionNo) (call : OperationCall κ ο)
  | fetch (transaction : TransactionNo)
  | point (transaction : TransactionNo)
  | commit (transaction : TransactionNo)
  | rollback (transaction : TransactionNo)
  deriving DecidableEq, Repr

def OperationStatement.transaction {κ ο : Type} : OperationStatement κ ο → TransactionNo
  | .insert t _ => t
  | .fetch t    => t
  | .point t    => t
  | .commit t   => t
  | .rollback t => t

namespace OperationRows

variable {κ ο : Type}

/-- Nobody is in a transaction. -/
def start (operations : List (OperationCall κ ο)) (payments : List (Option OperationId)) :
    OperationRows κ ο where
  operations := operations.map fun o => ⟨some o, none⟩
  payments := payments.map fun p => ⟨p, none⟩
  calls _ := .idle
  results := []

def setCall (s : OperationRows κ ο) (t : TransactionNo) (call : CallProgress κ ο) :
    OperationRows κ ο :=
  { s with calls := Function.update s.calls t call }

/-- The call ends. -/
def finish (s : OperationRows κ ο) (t : TransactionNo) (call : OperationCall κ ο)
    (result : Except Error OperationId) : OperationRows κ ο :=
  { s with results := s.results ++ [⟨t, call, result⟩] }

def lockOperation (s : OperationRows κ ο) (t : TransactionNo) (id : OperationId) :
    OperationRows κ ο :=
  { s with operations := s.operations.modify id (·.lock t) }

/-- A row that only its transaction sees. -/
def insertOperation (s : OperationRows κ ο) (t : TransactionNo) (call : OperationCall κ ο) :
    OperationRows κ ο :=
  { s with operations := s.operations ++ [⟨none, some (t, some call)⟩] }

def writePayment (s : OperationRows κ ο) (t : TransactionNo) (p : PaymentId) (id : OperationId) :
    OperationRows κ ο :=
  { s with payments := s.payments.modify p (·.write t (some id)) }

def raceLost : Error := .valueError "provider operation idempotency race lost"

def keyConflict : Error := .valueError "provider operation idempotency key conflict"

/-- What a transaction sees of an operation. -/
def seen (s : OperationRows κ ο) (t : TransactionNo) (id : OperationId) :
    Option (OperationCall κ ο) :=
  (s.operations[id]?).bind (·.read t)

/-- The committed row of an operation. -/
def operation (s : OperationRows κ ο) (id : OperationId) : Option (OperationCall κ ο) :=
  (s.operations[id]?).bind Cell.committed

/-- The committed `provider_operation_id` of a payment. -/
def pointer (s : OperationRows κ ο) (p : PaymentId) : Option OperationId :=
  (s.payments[p]?).bind Cell.committed

/-- No other transaction has locked the operation. -/
def Unlocked (s : OperationRows κ ο) (t : TransactionNo) (id : OperationId) : Prop :=
  ∀ c ∈ s.operations[id]?, c.Free t

instance (s : OperationRows κ ο) (t : TransactionNo) (id : OperationId) :
    Decidable (s.Unlocked t id) := by
  unfold Unlocked
  infer_instance

/-- No other transaction has locked the payment. -/
def PaymentUnlocked (s : OperationRows κ ο) (t : TransactionNo) (p : PaymentId) : Prop :=
  ∀ c ∈ s.payments[p]?, c.Free t

instance (s : OperationRows κ ο) (t : TransactionNo) (p : PaymentId) :
    Decidable (s.PaymentUnlocked t p) := by
  unfold PaymentUnlocked
  infer_instance

variable {s : OperationRows κ ο} {t : TransactionNo} {key : κ} {id : OperationId}

lemma seen_eq_some {o : OperationCall κ ο} :
    s.seen t id = some o ↔ ∃ c, s.operations[id]? = some c ∧ c.read t = some o :=
  Option.bind_eq_some_iff

variable [DecidableEq κ]

/-- A row under a key. -/
def holds (key : κ) (row : Option (OperationCall κ ο)) : Bool :=
  row.any fun o => o.idempotencyKey = key

/-- The operation a transaction sees under a key. -/
def find? (s : OperationRows κ ο) (t : TransactionNo) (key : κ) :
    Option OperationId :=
  s.operations.findIdx? fun c => holds key (c.read t)

/-- Another transaction has inserted the key and has not ended. -/
def awaits (s : OperationRows κ ο) (t : TransactionNo) (key : κ) : Bool :=
  s.operations.any fun c => c.committed.isNone && c.held.any fun x => x.1 != t && holds key x.2

@[simp] lemma holds_iff {row : Option (OperationCall κ ο)} :
    holds key row ↔ ∃ o, row = some o ∧ o.idempotencyKey = key := by
  simp [holds, Option.any_eq_true]

/-- An operation that is found is seen, under the key. -/
lemma find?_seen (h : s.find? t key = some id) :
    ∃ o, s.seen t id = some o ∧ o.idempotencyKey = key := by
  obtain ⟨hlt, hholds, -⟩ := List.findIdx?_eq_some_iff_getElem.mp h
  obtain ⟨o, ho, hkey⟩ := holds_iff.mp hholds
  exact ⟨o, seen_eq_some.mpr ⟨_, List.getElem?_eq_getElem hlt, ho⟩, hkey⟩

lemma find?_eq_none :
    s.find? t key = none ↔ ∀ id o, s.seen t id = some o → o.idempotencyKey ≠ key := by
  rw [find?, List.findIdx?_eq_none_iff]
  constructor
  · intro h id o ho hkey
    obtain ⟨c, hc, hread⟩ := seen_eq_some.mp ho
    have hnot := h c (List.mem_of_getElem? hc)
    exact absurd (holds_iff.mpr ⟨o, hread, hkey⟩) (by simp [hnot])
  · intro h c hc
    obtain ⟨id, hid⟩ := List.getElem?_of_mem hc
    rw [Bool.eq_false_iff]
    intro hholds
    obtain ⟨o, ho, hkey⟩ := holds_iff.mp hholds
    exact h id o (seen_eq_some.mpr ⟨c, hid, ho⟩) hkey

/-! ### Statements -/

variable [DecidableEq ο]

/-- `INSERT … ON CONFLICT (idempotency_key) DO NOTHING`; the foreign key is tested on what is
inserted. -/
def insert (s : OperationRows κ ο) (t : TransactionNo) (call : OperationCall κ ο) :
    OperationRows κ ο :=
  if s.awaits t call.idempotencyKey then s
  else if (s.find? t call.idempotencyKey).isSome then s.setCall t (.conflicted call)
  else if call.paymentId < s.payments.length then
    (s.insertOperation t call).setCall t (.holding s.operations.length call)
  else (s.finish t call (.error .foreignKeyViolation)).setCall t .aborted

/-- `SELECT … FOR UPDATE` and the comparison with what it finds. -/
def fetch (s : OperationRows κ ο) (t : TransactionNo) (call : OperationCall κ ο) :
    OperationRows κ ο :=
  match s.find? t call.idempotencyKey with
  | none => (s.finish t call (.error raceLost)).setCall t .idle
  | some id =>
    if s.Unlocked t id then
      if (s.seen t id).any fun o =>
          o.paymentId ≠ call.paymentId || o.operationType ≠ call.operationType then
        ((s.lockOperation t id).finish t call (.error keyConflict)).setCall t .idle
      else (s.lockOperation t id).setCall t (.holding id call)
    else s

/-- `UPDATE payments SET provider_operation_id` and the return. -/
def point (s : OperationRows κ ο) (t : TransactionNo) (id : OperationId)
    (call : OperationCall κ ο) : OperationRows κ ο :=
  if s.PaymentUnlocked t call.paymentId then
    ((s.writePayment t call.paymentId id).finish t call (.ok id)).setCall t .idle
  else s

/-- One statement. A statement that finds a row locked waits. -/
def step (s : OperationRows κ ο) : OperationStatement κ ο → OperationRows κ ο
  | .insert t call =>
    match s.calls t with
    | .idle => s.insert t call
    | _     => s
  | .fetch t =>
    match s.calls t with
    | .conflicted call => s.fetch t call
    | _                => s
  | .point t =>
    match s.calls t with
    | .holding id call => s.point t id call
    | _                => s
  | .commit t =>
    match s.calls t with
    | .idle =>
      { s with
        operations := s.operations.map (Cell.commit t)
        payments := s.payments.map (Cell.commit t) }
    | _     => s
  | .rollback t =>
    { s with
      operations := s.operations.map (Cell.rollback t)
      payments := s.payments.map (Cell.rollback t)
      calls := Function.update s.calls t .idle }

lemma step_insert {call : OperationCall κ ο} (h : s.calls t = .idle) :
    s.step (.insert t call) = s.insert t call := by
  simp only [step, h]

lemma step_fetch {call : OperationCall κ ο} (h : s.calls t = .conflicted call) :
    s.step (.fetch t) = s.fetch t call := by
  simp only [step, h]

/-- The comparison, once the row is found. -/
lemma fetch_of_find? {call o : OperationCall κ ο} (hfind : s.find? t call.idempotencyKey = some id)
    (hseen : s.seen t id = some o) :
    s.fetch t call =
      if s.Unlocked t id then
        if o.paymentId ≠ call.paymentId ∨ o.operationType ≠ call.operationType then
          ((s.lockOperation t id).finish t call (.error keyConflict)).setCall t .idle
        else (s.lockOperation t id).setCall t (.holding id call)
      else s := by
  simp only [fetch, hfind, hseen, Option.any_some, Bool.or_eq_true, decide_eq_true_eq]

lemma step_point {call : OperationCall κ ο} (h : s.calls t = .holding id call) :
    s.step (.point t) = s.point t id call := by
  simp only [step, h]

omit [DecidableEq κ] [DecidableEq ο] in
@[simp] lemma calls_setCall (s : OperationRows κ ο) (t : TransactionNo)
    (call : CallProgress κ ο) : (s.setCall t call).calls t = call := by
  simp [setCall]

/-! ### One transaction alone -/

/-- What a transaction reads, and would commit. -/
def view (s : OperationRows κ ο) (t : TransactionNo) :
    List (Option (OperationCall κ ο)) × List (Option OperationId) :=
  (s.operations.map (·.read t), s.payments.map (·.read t))

end OperationRows

/-- The columns of an operation that are compared. -/
def ProviderOperation.call (o : ProviderOperation) : OperationCall OperationKey OperationType where
  paymentId := o.paymentId
  operationType := o.operationType
  idempotencyKey := o.idempotencyKey

/-- The rows of a database. -/
def Db.operationRows (db : Db) : OperationRows OperationKey OperationType :=
  .start (db.providerOperations.rows.map (·.call)) (db.payments.rows.map (·.providerOperationId))

/-- What every transaction reads there. -/
def Db.operationView (db : Db) :
    List (Option (OperationCall OperationKey OperationType)) × List (Option OperationId) :=
  (db.providerOperations.rows.map fun o => some o.call,
    db.payments.rows.map (·.providerOperationId))

namespace OperationRows

@[simp] lemma view_operationRows (db : Db) (t : TransactionNo) :
    db.operationRows.view t = db.operationView := by
  simp [view, Db.operationRows, Db.operationView, start, Function.comp_def, Cell.read]

lemma seen_operationRows (db : Db) (t : TransactionNo) (id : OperationId) :
    db.operationRows.seen t id = (db.providerOperations.get? id).map (·.call) := by
  rw [seen, Db.operationRows, start, Table.get?]
  cases h : db.providerOperations.rows[id]? <;> simp [h, Cell.read]

/-- Alone, a transaction finds what the table finds. -/
lemma find?_operationRows (db : Db) (t : TransactionNo) (key : OperationKey) :
    db.operationRows.find? t key = (db.providerOperations.find? key).map (·.1) := by
  cases hfind : db.providerOperations.find? key with
  | none =>
    rw [Option.map_none, find?_eq_none]
    intro id o ho hkey
    rw [seen_operationRows] at ho
    obtain ⟨row, hrow, rfl⟩ := Option.map_eq_some_iff.mp ho
    exact Table.find?_eq_none.mp hfind row (Table.mem_of_get? hrow) (congrArg some hkey)
  | some found =>
    obtain ⟨id, row⟩ := found
    obtain ⟨hrow, hkey⟩ := Table.find?_eq_some.mp hfind
    cases h : db.operationRows.find? t key with
    | none =>
      refine absurd (Option.some.inj hkey) (find?_eq_none.mp h id row.call ?_)
      rw [seen_operationRows, hrow]
      rfl
    | some id' =>
      obtain ⟨o, ho, hkey'⟩ := find?_seen h
      rw [seen_operationRows] at ho
      obtain ⟨row', hrow', rfl⟩ := Option.map_eq_some_iff.mp ho
      have hid := Table.id_unique hrow hrow' hkey (congrArg some hkey')
      rw [Option.map_some, hid]

/-- Alone, a transaction waits for nothing. -/
lemma not_awaits_operationRows (db : Db) (t : TransactionNo) (key : OperationKey) :
    db.operationRows.awaits t key = false := by
  simp [awaits, Db.operationRows, start]

lemma unlocked_operationRows (db : Db) (t : TransactionNo) (id : OperationId) :
    db.operationRows.Unlocked t id := by
  intro c hc
  rw [Db.operationRows, start, List.getElem?_map, Option.mem_def] at hc
  obtain ⟨o, -, rfl⟩ := Option.map_eq_some_iff.mp hc
  exact Cell.free_unheld _ t

lemma paymentUnlocked_operationRows (db : Db) (t : TransactionNo) (p : PaymentId) :
    db.operationRows.PaymentUnlocked t p := by
  intro c hc
  rw [Db.operationRows, start, List.getElem?_map, Option.mem_def] at hc
  obtain ⟨o, -, rfl⟩ := Option.map_eq_some_iff.mp hc
  exact Cell.free_unheld _ t

lemma operationView_setProviderOperation (db : Db) (p : PaymentId) (id : OperationId) :
    (PaymentRepository.setProviderOperation db p id).operationView =
      (db.operationView.1, db.operationView.2.set p (some id)) := by
  refine Prod.ext rfl ?_
  simp only [Db.operationView, PaymentRepository.setProviderOperation, Table.rows_update]
  apply List.ext_getElem?
  intro j
  by_cases hj : p = j
  · subst hj
    cases h : db.payments.rows[p]? <;> simp [List.getElem?_set_self', h]
  · simp [hj]

variable {db db' : Db} {t : TransactionNo} {call : OperationCall OperationKey OperationType}

/-- Alone, a transaction that inserts under a free key gets a new row. -/
lemma insert_operationRows (hpayment : call.paymentId < db.payments.nextId)
    (hfree : db.providerOperations.find? call.idempotencyKey = none) :
    db.operationRows.insert t call =
      (db.operationRows.insertOperation t call).setCall t
        (.holding db.providerOperations.nextId call) := by
  have hlength : db.operationRows.operations.length = db.providerOperations.nextId := by
    simp [Db.operationRows, start, Table.nextId]
  have hpayments : db.operationRows.payments.length = db.payments.nextId := by
    simp [Db.operationRows, start, Table.nextId]
  rw [insert, not_awaits_operationRows, if_neg Bool.false_ne_true, find?_operationRows, hfree,
    Option.map_none, Option.isSome_none, if_neg Bool.false_ne_true, hpayments, if_pos hpayment,
    hlength]

/-- Under a key that is taken it goes on to the second read. -/
lemma insert_operationRows_of_taken {found : OperationId × ProviderOperation}
    (hfound : db.providerOperations.find? call.idempotencyKey = some found) :
    db.operationRows.insert t call = db.operationRows.setCall t (.conflicted call) := by
  rw [insert, not_awaits_operationRows, if_neg Bool.false_ne_true, find?_operationRows, hfound,
    Option.map_some, Option.isSome_some, if_pos rfl]

/-- The second read finds the row and compares it. -/
lemma fetch_operationRows {id : OperationId} {existing : ProviderOperation}
    (hfound : db.providerOperations.find? call.idempotencyKey = some (id, existing)) :
    (db.operationRows.setCall t (.conflicted call)).fetch t call =
      if existing.paymentId ≠ call.paymentId ∨ existing.operationType ≠ call.operationType then
        (((db.operationRows.setCall t (.conflicted call)).lockOperation t id).finish t call
          (.error keyConflict)).setCall t .idle
      else
        ((db.operationRows.setCall t (.conflicted call)).lockOperation t id).setCall t
          (.holding id call) := by
  have hfind : (db.operationRows.setCall t (.conflicted call)).find? t call.idempotencyKey =
      some id := by
    have h := find?_operationRows db t call.idempotencyKey
    rwa [hfound] at h
  have hunlocked : (db.operationRows.setCall t (.conflicted call)).Unlocked t id :=
    unlocked_operationRows db t id
  have hseen : (db.operationRows.setCall t (.conflicted call)).seen t id = some existing.call := by
    have h := seen_operationRows db t id
    rwa [(Table.find?_eq_some.mp hfound).1] at h
  rw [fetch_of_find? hfind hseen, if_pos hunlocked]
  rfl

lemma view_lockOperation {s : OperationRows OperationKey OperationType} {id : OperationId}
    (h : s.Unlocked t id) : (s.lockOperation t id).view t = s.view t := by
  refine Prod.ext ?_ rfl
  cases hc : s.operations[id]? with
  | none   =>
    simp [view, lockOperation, List.modify_eq_self (List.getElem?_eq_none_iff.mp hc)]
  | some c => exact map_read_lock hc (h c hc) t

lemma view_insertOperation (s : OperationRows OperationKey OperationType) (t : TransactionNo)
    (call : OperationCall OperationKey OperationType) :
    (s.insertOperation t call).view t = ((s.view t).1 ++ [some call], (s.view t).2) := by
  simp [view, insertOperation, Cell.read]

lemma view_writePayment (s : OperationRows OperationKey OperationType) (t : TransactionNo)
    (p : PaymentId) (id : OperationId) :
    (s.writePayment t p id).view t = ((s.view t).1, (s.view t).2.set p (some id)) := by
  simp [view, writePayment]

/-- The statements of `create_provider_operation`, undisturbed, return what the function of the
repository returns. -/
theorem run_createProviderOperation {id : OperationId}
    (hpayment : call.paymentId < db.payments.nextId)
    (h : PaymentRepository.createProviderOperation db call.paymentId call.operationType
      call.idempotencyKey = .ok (id, db')) :
    let s := Machine.run step db.operationRows [.insert t call, .fetch t, .point t]
    s.calls t = .idle ∧ s.results = [⟨t, call, .ok id⟩] ∧ s.view t = db'.operationView := by
  set s₀ := db.operationRows with hs₀
  simp only [Machine.run_cons, Machine.run_nil]
  have hview₀ := view_operationRows db t
  rw [step_insert rfl]
  rw [PaymentRepository.createProviderOperation] at h
  cases hins : db.providerOperations.insert? (PaymentRepository.newOperation call.paymentId
      call.operationType call.idempotencyKey) with
  | some operations =>
    -- The key is free: the row is inserted and the second read left out.
    simp only [hins] at h
    obtain ⟨rfl, rfl⟩ := Prod.mk.inj (Except.ok.inj h)
    obtain ⟨hrow, hrows⟩ := Table.row?_of_insert? hins rfl
    have hfree : db.providerOperations.find? call.idempotencyKey = none :=
      Option.map_eq_none_iff.mp hrow
    rw [insert_operationRows hpayment hfree]
    set s₁ := (s₀.insertOperation t call).setCall t (.holding db.providerOperations.nextId call)
    have hcall₁ : s₁.calls t = .holding db.providerOperations.nextId call := calls_setCall _ _ _
    have hfetch : s₁.step (.fetch t) = s₁ := by simp only [step, hcall₁]
    have hunlocked : s₁.PaymentUnlocked t call.paymentId := paymentUnlocked_operationRows db t _
    rw [hfetch, step_point hcall₁, point, if_pos hunlocked]
    refine ⟨calls_setCall _ _ _, rfl, ?_⟩
    have hview₁ : s₁.view t = (db.operationView.1 ++ [some call], db.operationView.2) := by
      rw [← hview₀]
      exact view_insertOperation s₀ t call
    refine (view_writePayment s₁ t _ _).trans ?_
    rw [hview₁, operationView_setProviderOperation]
    refine Prod.ext ?_ rfl
    simp [hrows, Db.operationView, PaymentRepository.newOperation, ProviderOperation.call]
  | none =>
    simp only [hins] at h
    cases hfound : db.providerOperations.find? call.idempotencyKey with
    | none       => simp [hfound] at h
    | some found =>
      obtain ⟨id', existing⟩ := found
      simp only [hfound] at h
      split_ifs at h with hsame
      obtain ⟨rfl, rfl⟩ := Prod.mk.inj (Except.ok.inj h)
      rw [insert_operationRows_of_taken hfound, step_fetch (calls_setCall _ _ _),
        fetch_operationRows hfound, if_neg hsame]
      set s₁ := ((s₀.setCall t (.conflicted call)).lockOperation t id').setCall t
        (.holding id' call)
      have hunlocked : s₁.PaymentUnlocked t call.paymentId := paymentUnlocked_operationRows db t _
      rw [step_point (calls_setCall _ _ _), point, if_pos hunlocked]
      refine ⟨calls_setCall _ _ _, rfl, ?_⟩
      have hview₁ : s₁.view t = db.operationView := by
        rw [← hview₀]
        exact view_lockOperation (unlocked_operationRows db t id')
      refine (view_writePayment s₁ t _ _).trans ?_
      rw [hview₁, operationView_setProviderOperation]

/-- And raise what it raises. -/
theorem run_createProviderOperation_error {e : Error}
    (h : PaymentRepository.createProviderOperation db call.paymentId call.operationType
      call.idempotencyKey = .error e) :
    let s := Machine.run step db.operationRows [.insert t call, .fetch t, .point t]
    s.calls t = .idle ∧ s.results = [⟨t, call, .error e⟩] ∧ s.view t = db.operationView := by
  set s₀ := db.operationRows with hs₀
  simp only [Machine.run_cons, Machine.run_nil]
  rw [step_insert rfl]
  rw [PaymentRepository.createProviderOperation] at h
  cases hins : db.providerOperations.insert? (PaymentRepository.newOperation call.paymentId
      call.operationType call.idempotencyKey) with
  | some operations => simp [hins] at h
  | none =>
    simp only [hins] at h
    cases hfound : db.providerOperations.find? call.idempotencyKey with
    | none       =>
      have hnew : (PaymentRepository.newOperation call.paymentId call.operationType
          call.idempotencyKey).key = some call.idempotencyKey := rfl
      obtain ⟨row, hrow, hkey⟩ := (Table.insert?_eq_none_iff hnew).mp hins
      exact absurd hkey (Table.find?_eq_none.mp hfound row hrow)
    | some found =>
      obtain ⟨id', existing⟩ := found
      simp only [hfound] at h
      split_ifs at h with hdiffers
      obtain rfl := Except.error.inj h
      rw [insert_operationRows_of_taken hfound, step_fetch (calls_setCall _ _ _),
        fetch_operationRows hfound, if_pos hdiffers]
      set s₁ := (((s₀.setCall t (.conflicted call)).lockOperation t id').finish t call
        (.error keyConflict)).setCall t .idle
      have hcall₁ : s₁.calls t = .idle := calls_setCall _ _ _
      have hpoint : s₁.step (.point t) = s₁ := by simp only [step, hcall₁]
      rw [hpoint]
      refine ⟨hcall₁, rfl, ?_⟩
      rw [← view_operationRows db t]
      exact view_lockOperation (unlocked_operationRows db t id')

end OperationRows

end AgentPay
