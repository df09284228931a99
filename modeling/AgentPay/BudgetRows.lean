import AgentPay.Repositories
import AgentPay.Support.Machine
import AgentPay.Support.RowLock

/-!
# Budget calls, statement by statement

`reserve`, `consume` and `release` in any number of transactions at once. `reserve` locks the
budget row before it looks at it; `consume` and `release` lock the reservation, and the budget only
when they update it. A statement that finds a row locked waits. A transaction that is alone does
what the functions of the repository do.
-/

namespace AgentPay

open Support RowLock

/-! ### Transactions -/

abbrev TransactionNo := ℕ

/-- The two calls that settle a reservation. -/
inductive SettleCall where
  | consume
  | release
  deriving DecidableEq, Repr

def SettleCall.status : SettleCall → ReservationStatus
  | .consume => .consumed
  | .release => .released

def SettleCall.budget : SettleCall → Budget → Amount → Except Error Budget
  | .consume => Budget.consume
  | .release => Budget.release

/-- How far the call a transaction is in has come. -/
inductive BudgetCall where
  /-- Between two calls. -/
  | idle
  /-- The budget row is locked and has enough available. -/
  | reserving (budgetId : BudgetId) (requestId : RequestId) (amount : Decimal) (currency : String)
  /-- The reservation is inserted. -/
  | inserted (budgetId : BudgetId) (amount : Decimal)
  /-- The reservation row is locked and RESERVED. -/
  | settling (reservationId : ReservationId) (call : SettleCall)
  /-- The reservation has its new status. -/
  | marked (budgetId : BudgetId) (amount : Amount) (call : SettleCall)
  /-- A statement or a check has failed. -/
  | aborted
  deriving DecidableEq, Repr

/-- The two tables as every transaction sees them, and the calls in progress. -/
structure BudgetRows where
  budgets : List (Cell TransactionNo Budget)
  reservations : List (Cell TransactionNo (Option BudgetReservation))
  calls : TransactionNo → BudgetCall

/-- One statement of a transaction, or its end. -/
inductive BudgetStatement where
  | reserve (transaction : TransactionNo) (budgetId : BudgetId) (requestId : RequestId)
      (requestCurrency : String) (amount : Decimal)
  | insert (transaction : TransactionNo)
  | addReserved (transaction : TransactionNo)
  | settle (transaction : TransactionNo) (reservationId : ReservationId) (call : SettleCall)
  | mark (transaction : TransactionNo)
  | move (transaction : TransactionNo)
  | commit (transaction : TransactionNo)
  | rollback (transaction : TransactionNo)
  deriving DecidableEq, Repr

namespace BudgetRows

/-- Nobody is in a transaction. -/
def start (budgets : List Budget) (reservations : List BudgetReservation) : BudgetRows where
  budgets := budgets.map fun b => ⟨b, none⟩
  reservations := reservations.map fun r => ⟨some r, none⟩
  calls _ := .idle

def setCall (s : BudgetRows) (t : TransactionNo) (call : BudgetCall) : BudgetRows :=
  { s with calls := Function.update s.calls t call }

def lockBudget (s : BudgetRows) (t : TransactionNo) (id : BudgetId) : BudgetRows :=
  { s with budgets := s.budgets.modify id (·.lock t) }

def writeBudget (s : BudgetRows) (t : TransactionNo) (id : BudgetId) (b : Budget) : BudgetRows :=
  { s with budgets := s.budgets.modify id (·.write t b) }

def lockReservation (s : BudgetRows) (t : TransactionNo) (id : ReservationId) : BudgetRows :=
  { s with reservations := s.reservations.modify id (·.lock t) }

def writeReservation (s : BudgetRows) (t : TransactionNo) (id : ReservationId)
    (r : BudgetReservation) : BudgetRows :=
  { s with reservations := s.reservations.modify id (·.write t (some r)) }

/-- A row that only its transaction sees. -/
def insertReservation (s : BudgetRows) (t : TransactionNo) (r : BudgetReservation) : BudgetRows :=
  { s with reservations := s.reservations ++ [⟨none, some (t, some r)⟩] }

/-- The transaction sees a reservation of the request on the budget. -/
def Taken (s : BudgetRows) (t : TransactionNo) (budgetId : BudgetId) (requestId : RequestId) :
    Prop :=
  ∃ c ∈ s.reservations, ∃ r ∈ c.read t, r.budgetId = budgetId ∧ r.paymentRequestId = requestId

instance (s : BudgetRows) (t : TransactionNo) (budgetId : BudgetId) (requestId : RequestId) :
    Decidable (s.Taken t budgetId requestId) :=
  decidable_of_iff (∃ c ∈ s.reservations, (c.read t).any fun r =>
      decide (r.budgetId = budgetId ∧ r.paymentRequestId = requestId)) <| by
    simp [Taken, Option.any_eq_true]

/-- Another transaction has inserted such a reservation and has not ended. -/
def Awaited (s : BudgetRows) (t : TransactionNo) (budgetId : BudgetId) (requestId : RequestId) :
    Prop :=
  ∃ c ∈ s.reservations, ∃ x ∈ c.held, x.1 ≠ t ∧
    x.2.any fun r => decide (r.budgetId = budgetId ∧ r.paymentRequestId = requestId)

instance (s : BudgetRows) (t : TransactionNo) (budgetId : BudgetId) (requestId : RequestId) :
    Decidable (s.Awaited t budgetId requestId) :=
  decidable_of_iff (∃ c ∈ s.reservations, c.held.any fun x => decide (x.1 ≠ t) &&
      x.2.any fun r => decide (r.budgetId = budgetId ∧ r.paymentRequestId = requestId)) <| by
    simp [Awaited, Option.any_eq_true]

/-- One statement. -/
def step (s : BudgetRows) : BudgetStatement → BudgetRows
  | .reserve t id requestId requestCurrency amount =>
    match s.calls t, s.budgets[id]? with
    | .idle, some c =>
      if c.Free t then
        if (c.read t).refuses requestCurrency amount then s.lockBudget t id
        else (s.lockBudget t id).setCall t (.reserving id requestId amount (c.read t).currency)
      else s
    | _, _ => s
  | .insert t =>
    match s.calls t with
    | .reserving id requestId amount currency =>
      if s.Awaited t id requestId then s
      else if s.Taken t id requestId then s.setCall t .aborted
      else
        match Amount.store amount with
        | .error _ => s.setCall t .aborted
        | .ok stored =>
          (s.insertReservation t
            { budgetId := id, paymentRequestId := requestId, amount := stored, currency,
              status := .reserved }).setCall t (.inserted id amount)
    | _ => s
  | .addReserved t =>
    match s.calls t with
    | .inserted id amount =>
      match s.budgets[id]? with
      | some c =>
        if c.Free t then
          (s.writeBudget t id ((c.read t).addReserved amount)).setCall t .idle
        else s
      | none => s.setCall t .idle
    | _ => s
  | .settle t id call =>
    match s.calls t with
    | .idle =>
      match s.reservations[id]? with
      | none => s.setCall t .aborted
      | some c =>
        match c.read t with
        | none => s.setCall t .aborted
        | some row =>
          if c.Free t then
            if row.status ≠ .reserved then s.lockReservation t id
            else (s.lockReservation t id).setCall t (.settling id call)
          else s
    | _ => s
  | .mark t =>
    match s.calls t with
    | .settling id call =>
      match (s.reservations[id]?).bind (·.read t) with
      | some row =>
        (s.writeReservation t id { row with status := call.status }).setCall t
          (.marked row.budgetId row.amount call)
      | none => s
    | _ => s
  | .move t =>
    match s.calls t with
    | .marked id amount call =>
      match s.budgets[id]? with
      | some c =>
        if c.Free t then
          match call.budget (c.read t) amount with
          | .ok b => (s.writeBudget t id b).setCall t .idle
          | .error _ => s.setCall t .aborted
        else s
      | none => s.setCall t .idle
    | _ => s
  | .commit t =>
    if s.calls t = .idle then
      { s with
        budgets := s.budgets.map (Cell.commit t)
        reservations := s.reservations.map (Cell.commit t) }
    else s
  | .rollback t =>
    { budgets := s.budgets.map (Cell.rollback t)
      reservations := s.reservations.map (Cell.rollback t)
      calls := Function.update s.calls t .idle }

/-! ### Committed states -/

/-- The committed budgets. -/
def committedBudgets (s : BudgetRows) : List Budget := s.budgets.map Cell.committed

/-- The committed reservations. -/
def committedReservations (s : BudgetRows) : List BudgetReservation :=
  s.reservations.filterMap Cell.committed

/-- A reservation's committed row. -/
def reservation (s : BudgetRows) (id : ReservationId) : Option BudgetReservation :=
  (s.reservations[id]?).bind Cell.committed

/-! ### One transaction alone -/

/-- What a transaction reads, and would commit. -/
def view (s : BudgetRows) (t : TransactionNo) : List Budget × List BudgetReservation :=
  (s.budgets.map (·.read t), s.reservations.filterMap (·.read t))

/-- A commit publishes it. -/
lemma committed_commit {s : BudgetRows} {t : TransactionNo} (hcall : s.calls t = .idle) :
    ((s.step (.commit t)).committedBudgets, (s.step (.commit t)).committedReservations) =
      s.view t := by
  simp [step, hcall, committedBudgets, committedReservations, view, List.filterMap_map,
    Function.comp_def]

@[simp] lemma view_start (budgets : List Budget) (reservations : List BudgetReservation)
    (t : TransactionNo) : (start budgets reservations).view t = (budgets, reservations) := by
  simp [view, start, List.filterMap_map, Function.comp_def, Cell.read]

@[simp] lemma view_setCall (s : BudgetRows) (t : TransactionNo) (call : BudgetCall) :
    (s.setCall t call).view t = s.view t := rfl

lemma view_lockBudget {s : BudgetRows} {t : TransactionNo} {id : BudgetId}
    {c : Cell TransactionNo Budget} (hc : s.budgets[id]? = some c) (hfree : c.Free t) :
    (s.lockBudget t id).view t = s.view t := by
  simp [view, lockBudget, map_read_lock hc hfree]

lemma view_writeBudget (s : BudgetRows) (t : TransactionNo) (id : BudgetId) (b : Budget) :
    (s.writeBudget t id b).view t = ((s.view t).1.set id b, (s.view t).2) := by
  simp [view, writeBudget]

lemma view_lockReservation {s : BudgetRows} {t : TransactionNo} {id : ReservationId}
    {c : Cell TransactionNo (Option BudgetReservation)} (hc : s.reservations[id]? = some c)
    (hfree : c.Free t) : (s.lockReservation t id).view t = s.view t := by
  have hread := congrArg (List.filterMap fun row => row) (map_read_lock hc hfree t)
  rw [List.filterMap_map, List.filterMap_map] at hread
  exact Prod.ext rfl hread

/-- A row the transaction reads is replaced where it stands. -/
lemma view_writeReservation {s : BudgetRows} {t : TransactionNo} {id : ReservationId}
    {rows : List BudgetReservation} (hrows : s.reservations.map (·.read t) = rows.map some)
    (r : BudgetReservation) :
    (s.writeReservation t id r).view t = ((s.view t).1, rows.set id r) := by
  have hread := map_read_write s.reservations id t (some r)
  rw [hrows, ← List.map_set] at hread
  have hread := congrArg (List.filterMap fun row => row) hread
  rw [List.filterMap_map, List.filterMap_map] at hread
  exact Prod.ext rfl (hread.trans (by simp))

lemma view_insertReservation (s : BudgetRows) (t : TransactionNo) (r : BudgetReservation) :
    (s.insertReservation t r).view t = ((s.view t).1, (s.view t).2 ++ [r]) := by
  simp [view, insertReservation, Cell.read]

variable {db db' : Db}

/-- The statements of `reserve`, undisturbed, are the function of the repository. -/
theorem run_reserve {id : BudgetId} {requestId : RequestId} {amount : Decimal}
    {answer : Option ReservationId}
    (h : BudgetRepository.reserve db id requestId amount = .ok (answer, db')) :
    let s := Machine.run step (start db.budgets db.budgetReservations.rows)
      [.reserve t id requestId (BudgetRepository.requestCurrency db requestId) amount, .insert t,
        .addReserved t]
    s.calls t = .idle ∧ s.view t = (db'.budgets, db'.budgetReservations.rows) := by
  set s₀ := start db.budgets db.budgetReservations.rows with hs₀
  simp only [Machine.run_cons, Machine.run_nil]
  have hidle : s₀.calls t = .idle := rfl
  -- A call that ends with the lookup or the checks leaves the other statements nothing to do.
  have hended : ∀ s : BudgetRows, s.calls t = .idle →
      (s.step (.insert t)).step (.addReserved t) = s := by
    intro s hs
    simp only [step, hs]
  rw [BudgetRepository.reserve] at h
  cases hrow : db.budgets[id]? with
  | none =>
    simp only [hrow] at h
    obtain ⟨-, rfl⟩ := Prod.mk.inj (Except.ok.inj h)
    have hreserve : s₀.step (.reserve t id requestId
        (BudgetRepository.requestCurrency db requestId) amount) = s₀ := by
      simp [step, hs₀, start, hrow]
    rw [hreserve, hended s₀ hidle, hs₀, view_start]
    exact ⟨rfl, rfl⟩
  | some row =>
    have hc : s₀.budgets[id]? = some ⟨row, none⟩ := by simp [hs₀, start, hrow]
    have hfree := Cell.free_unheld row t
    simp only [hrow] at h
    split_ifs at h with hrefuses
    · obtain ⟨-, rfl⟩ := Prod.mk.inj (Except.ok.inj h)
      have hreserve : s₀.step (.reserve t id requestId
          (BudgetRepository.requestCurrency db requestId) amount) = s₀.lockBudget t id := by
        simp only [step, hidle, hc, if_pos hfree, Cell.read, hrefuses, ↓reduceIte]
      rw [hreserve, hended (s₀.lockBudget t id) hidle, view_lockBudget hc hfree, hs₀, view_start]
      exact ⟨rfl, rfl⟩
    · obtain ⟨stored, hstored, h⟩ := Except.bind_eq_ok.mp h
      set r : BudgetReservation :=
        { budgetId := id, paymentRequestId := requestId, amount := stored,
          currency := row.currency, status := .reserved } with hr
      cases hinsert : db.budgetReservations.insert? r with
      | none => simp [hinsert] at h
      | some reservations =>
        simp only [hinsert] at h
        obtain ⟨-, rfl⟩ := Prod.mk.inj (Except.ok.inj h)
        obtain ⟨hadmits, hrows⟩ := Table.insert?_eq_some.mp hinsert
        set s₁ := (s₀.lockBudget t id).setCall t (.reserving id requestId amount row.currency)
          with hs₁
        have hreserve : s₀.step (.reserve t id requestId
            (BudgetRepository.requestCurrency db requestId) amount) = s₁ := by
          simp only [step, hidle, hc, if_pos hfree, Cell.read, hrefuses, hs₁]
          rfl
        have hcall₁ : s₁.calls t = .reserving id requestId amount row.currency := by
          simp [hs₁, setCall]
        have hawaited : ¬ s₁.Awaited t id requestId := by
          simp [Awaited, hs₁, setCall, lockBudget, hs₀, start]
        have htaken : ¬ s₁.Taken t id requestId := by
          rintro ⟨c, hc, r', hr', hkey⟩
          obtain ⟨r₀, hr₀, rfl⟩ := List.mem_map.mp hc
          obtain rfl := Option.some.inj hr'
          exact hadmits (id, requestId) rfl r₀ hr₀ (by simp [hkey.1, hkey.2])
        set s₂ := (s₁.insertReservation t r).setCall t (.inserted id amount) with hs₂
        have hinsert : s₁.step (.insert t) = s₂ := by
          simp only [step, hcall₁, if_neg hawaited, if_neg htaken, hstored, hs₂, hr]
        have hcall₂ : s₂.calls t = .inserted id amount := by simp [hs₂, setCall]
        have hc₂ : s₂.budgets[id]? = some ((⟨row, none⟩ : Cell TransactionNo Budget).lock t) := by
          have : s₂.budgets = s₀.budgets.modify id (·.lock t) := rfl
          rw [this, List.getElem?_modify_eq, hc]
          rfl
        have hadd : s₂.step (.addReserved t) =
            (s₂.writeBudget t id (row.addReserved amount)).setCall t .idle := by
          have hlocked : ((⟨row, none⟩ : Cell TransactionNo Budget).lock t).Free t :=
            Cell.HeldBy.free ⟨_, rfl⟩
          simp only [step, hcall₂, hc₂, if_pos hlocked, Cell.read_lock hfree]
          rfl
        have hview : s₂.view t = (db.budgets, db.budgetReservations.rows ++ [r]) := by
          rw [hs₂, view_setCall, view_insertReservation, hs₁, view_setCall,
            view_lockBudget hc hfree, hs₀, view_start]
        rw [hreserve, hinsert, hadd, view_setCall, view_writeBudget, hview]
        refine ⟨by simp [setCall], Prod.ext ?_ hrows.symm⟩
        rw [List.modify_eq_set_getElem?, hrow]
        rfl

/-- The statements of `consume` and `release`, undisturbed, are the functions of the repository. -/
theorem run_settle {id : ReservationId} {call : SettleCall}
    (h : BudgetRepository.settle db id call.status call.budget = .ok db') :
    let s := Machine.run step (start db.budgets db.budgetReservations.rows)
      [.settle t id call, .mark t, .move t]
    s.calls t = .idle ∧ s.view t = (db'.budgets, db'.budgetReservations.rows) := by
  set s₀ := start db.budgets db.budgetReservations.rows with hs₀
  simp only [Machine.run_cons, Machine.run_nil]
  have hidle : s₀.calls t = .idle := rfl
  rw [BudgetRepository.settle] at h
  cases hrow : db.budgetReservations.get? id with
  | none => simp [hrow] at h
  | some row =>
    have hc : s₀.reservations[id]? = some ⟨some row, none⟩ := by
      rw [Table.get?] at hrow
      simp [hs₀, start, hrow]
    have hfree := Cell.free_unheld (some row) t
    simp only [hrow] at h
    split_ifs at h with hstatus
    · -- The reservation is settled already.
      obtain rfl := Except.ok.inj h
      have hsettle : s₀.step (.settle t id call) = s₀.lockReservation t id := by
        simp only [step, hidle, hc, Cell.read, if_pos hfree, if_pos hstatus]
      have hrest : ((s₀.lockReservation t id).step (.mark t)).step (.move t) =
          s₀.lockReservation t id := by
        have hidle : (s₀.lockReservation t id).calls t = .idle := rfl
        simp only [step, hidle]
      rw [hsettle, hrest, view_lockReservation hc hfree, hs₀, view_start]
      exact ⟨rfl, rfl⟩
    · have hstatus := not_not.mp hstatus
      set s₁ := (s₀.lockReservation t id).setCall t (.settling id call) with hs₁
      have hsettle : s₀.step (.settle t id call) = s₁ := by
        simp only [step, hidle, hc, Cell.read, if_pos hfree, hstatus, hs₁, ne_eq, not_true,
          if_false]
      have hcall₁ : s₁.calls t = .settling id call := by simp [hs₁, setCall]
      have hrows₁ : s₁.reservations.map (·.read t) = db.budgetReservations.rows.map some := by
        exact (map_read_lock hc hfree t).trans (by simp [hs₀, start, Function.comp_def, Cell.read])
      have hc₁ : s₁.reservations[id]? =
          some ((⟨some row, none⟩ : Cell TransactionNo (Option BudgetReservation)).lock t) := by
        have : s₁.reservations = s₀.reservations.modify id (·.lock t) := rfl
        rw [this, List.getElem?_modify_eq, hc]
        rfl
      set settled : BudgetReservation := { row with status := call.status } with hsettled
      set s₂ := (s₁.writeReservation t id settled).setCall t
        (.marked row.budgetId row.amount call) with hs₂
      have hmark : s₁.step (.mark t) = s₂ := by
        simp only [step, hcall₁, hc₁, Option.bind_some, Cell.read_lock hfree]
        rfl
      have hcall₂ : s₂.calls t = .marked row.budgetId row.amount call := by simp [hs₂, setCall]
      have hview₂ : s₂.view t = (db.budgets, db.budgetReservations.rows.set id settled) := by
        rw [hs₂, view_setCall, view_writeReservation hrows₁, hs₁, view_setCall,
          view_lockReservation hc hfree, hs₀, view_start]
      have hreservations : (BudgetRepository.setReservationStatus db id
          call.status).budgetReservations.rows = db.budgetReservations.rows.set id settled := by
        rw [BudgetRepository.setReservationStatus, Table.rows_update,
          List.modify_eq_set_getElem?]
        rw [Table.get?] at hrow
        rw [hrow]
        rfl
      rw [BudgetRepository.updateBudget] at h
      rw [hsettle, hmark]
      cases hbudget : db.budgets[row.budgetId]? with
      | none =>
        simp only [BudgetRepository.setReservationStatus, hbudget] at h
        obtain rfl := Except.ok.inj h
        have hmove : s₂.step (.move t) = s₂.setCall t .idle := by
          have : s₂.budgets[row.budgetId]? = none := by
            simp [hs₂, hs₁, hs₀, setCall, writeReservation, lockReservation, start, hbudget]
          simp only [step, hcall₂, this]
        rw [hmove, view_setCall, hview₂]
        exact ⟨by simp [setCall], Prod.ext rfl hreservations.symm⟩
      | some b =>
        have hb : s₂.budgets[row.budgetId]? = some ⟨b, none⟩ := by
          simp [hs₂, hs₁, hs₀, setCall, writeReservation, lockReservation, start, hbudget]
        simp only [BudgetRepository.setReservationStatus, hbudget] at h
        obtain ⟨b', hb', h⟩ := Except.bind_eq_ok.mp h
        obtain rfl := Except.ok.inj h
        have hmove : s₂.step (.move t) =
            (s₂.writeBudget t row.budgetId b').setCall t .idle := by
          simp only [step, hcall₂, hb, if_pos (Cell.free_unheld b t), Cell.read, hb']
        rw [hmove, view_setCall, view_writeBudget, hview₂]
        exact ⟨by simp [setCall], Prod.ext rfl hreservations.symm⟩

end BudgetRows

end AgentPay
