import AgentPay.BudgetRows

/-!
# Budgets under concurrent transactions

The counters of a budget are running totals beside the reservations they count, and a call changes
the two in different statements. What a transaction has changed of a counter is what it has
changed of the total, up to what its call still owes.
-/

namespace AgentPay

open Support RowLock

/-! ### What the counters stand for -/

/-- The sum of the reservations of a budget that have a given status. -/
def reservedUnder (reservations : List BudgetReservation) (budgetId : BudgetId)
    (status : ReservationStatus) : ℕ :=
  (reservations.map fun r =>
    if r.budgetId = budgetId ∧ r.status = status then r.amount.units else 0).sum

/-- Every budget's counters are the sums of its reservations, and within its limit. -/
def BudgetsAgree (budgets : List Budget) (reservations : List BudgetReservation) : Prop :=
  ∀ (id : BudgetId) (budget : Budget), budgets[id]? = some budget →
    budget.reservedAmount = reservedUnder reservations id .reserved ∧
    budget.consumedAmount = reservedUnder reservations id .consumed ∧
    budget.consumedAmount + budget.reservedAmount ≤ budget.limitAmount

namespace BudgetRows

/-! ### The invariant -/

/-- What a row adds to the reservations of a budget that have a given status. -/
def share (id : BudgetId) (status : ReservationStatus) : Option BudgetReservation → ℤ
  | some r => if r.budgetId = id ∧ r.status = status then r.amount.units else 0
  | none   => 0

/-- The counter of the reservations that have a given status. -/
def counter : ReservationStatus → Budget → ℤ
  | .reserved, b => b.reservedAmount
  | .consumed, b => b.consumedAmount
  | .released, _ => 0

/-- What a call has done to the reservations of a budget and not yet to its counter. -/
def pending (id : BudgetId) (status : ReservationStatus) : BudgetCall → ℤ
  | .inserted id' amount =>
    if id' = id ∧ status = .reserved then roundUnits amount.units else 0
  | .marked id' amount call =>
    if id' = id then
      (if status = call.status then (amount.units : ℤ) else 0) -
        (if status = .reserved then (amount.units : ℤ) else 0)
    else 0
  | _ => 0

/-- Enough is available on a budget for a request. -/
def Covers (b : Budget) (requested : ℚ) : Prop :=
  (b.consumedAmount : ℚ) + b.reservedAmount + requested ≤ b.limitAmount

/-- What a call has found under the locks it holds. -/
def Ready (s : BudgetRows) (t : TransactionNo) : BudgetCall → Prop
  | .reserving id _ amount _ =>
    ∃ c, s.budgets[id]? = some c ∧ c.HeldBy t ∧ Covers (c.read t) amount.units
  | .inserted id amount =>
    (∃ stored, Amount.store amount = .ok stored) ∧
      ∃ c, s.budgets[id]? = some c ∧ c.HeldBy t ∧ Covers (c.read t) amount.units
  | .settling id _ =>
    ∃ c row, s.reservations[id]? = some c ∧ c.HeldBy t ∧ c.read t = some row ∧
      row.status = .reserved
  | _ => True

/-- The invariant: the committed counters are the committed sums; a transaction has changed a
counter by as much as it has changed the sum, its pending call apart; no value that is or may be
committed exceeds the limit; a settled reservation is settled for good. -/
structure Sound (s : BudgetRows) : Prop where
  committed : ∀ (id : BudgetId) c, s.budgets[id]? = some c → ∀ status, status ≠ .released →
    counter status c.committed = total (share id status) s.reservations
  changes : ∀ t, s.calls t ≠ .aborted → ∀ (id : BudgetId) c, s.budgets[id]? = some c →
    ∀ status, status ≠ .released →
      c.change (counter status) t + pending id status (s.calls t) =
        change (share id status) s.reservations t
  limit : ∀ c ∈ s.budgets, ∀ t, Covers (c.read t) 0
  ready : ∀ t, s.Ready t (s.calls t)
  settled : ∀ c ∈ s.reservations, ∀ row, c.committed = some row → row.status ≠ .reserved →
    ∀ t, c.read t = some row

variable {s : BudgetRows} {t : TransactionNo}

/-- What a call has found stays so as long as the rows it holds do. -/
lemma Ready.frame {s s' : BudgetRows} {u : TransactionNo} {call : BudgetCall} (h : s.Ready u call)
    (hbudgets : ∀ (id : BudgetId) c, s.budgets[id]? = some c → c.HeldBy u →
      ∃ c', s'.budgets[id]? = some c' ∧ c'.HeldBy u ∧ c'.read u = c.read u)
    (hreservations : ∀ (id : ReservationId) c, s.reservations[id]? = some c → c.HeldBy u →
      ∃ c', s'.reservations[id]? = some c' ∧ c'.HeldBy u ∧ c'.read u = c.read u) :
    s'.Ready u call := by
  cases call with
  | reserving id requestId amount currency =>
    obtain ⟨c, hc, hheld, hcovers⟩ := h
    obtain ⟨c', hc', hheld', hread⟩ := hbudgets id c hc hheld
    exact ⟨c', hc', hheld', hread ▸ hcovers⟩
  | inserted id amount =>
    obtain ⟨hstored, c, hc, hheld, hcovers⟩ := h
    obtain ⟨c', hc', hheld', hread⟩ := hbudgets id c hc hheld
    exact ⟨hstored, c', hc', hheld', hread ▸ hcovers⟩
  | settling id call =>
    obtain ⟨c, row, hc, hheld, hrow, hstatus⟩ := h
    obtain ⟨c', hc', hheld', hread⟩ := hreservations id c hc hheld
    exact ⟨c', row, hc', hheld', hread.trans hrow, hstatus⟩
  | _ => trivial

/-- Rewriting a row that `t` may lock leaves what another transaction holds alone. -/
lemma held_modify {ρ : Type} {rows : List (Cell TransactionNo ρ)} {i : ℕ}
    {c : Cell TransactionNo ρ} (hc : rows[i]? = some c) {t u : TransactionNo} (hfree : c.Free t)
    (hne : u ≠ t) {f : Cell TransactionNo ρ → Cell TransactionNo ρ} {j : ℕ}
    {d : Cell TransactionNo ρ} (hd : rows[j]? = some d) (hheld : d.HeldBy u) :
    ∃ d', (rows.modify i f)[j]? = some d' ∧ d'.HeldBy u ∧ d'.read u = d.read u := by
  have hij : i ≠ j := by
    rintro rfl
    obtain rfl : c = d := by simpa [hc] using hd
    obtain ⟨v, hv⟩ := hheld
    exact hne (hfree (u, v) hv)
  exact ⟨d, by simp [hij, hd], hheld, rfl⟩

/-- Locking a row changes nothing for the transactions that hold rows. -/
lemma held_lock {ρ : Type} {rows : List (Cell TransactionNo ρ)} {i : ℕ}
    {c : Cell TransactionNo ρ} (hc : rows[i]? = some c) {t u : TransactionNo} (hfree : c.Free t)
    {j : ℕ} {d : Cell TransactionNo ρ} (hd : rows[j]? = some d) (hheld : d.HeldBy u) :
    ∃ d', (rows.modify i (·.lock t))[j]? = some d' ∧ d'.HeldBy u ∧ d'.read u = d.read u := by
  by_cases hne : u = t
  · subst hne
    by_cases hij : i = j
    · subst hij
      obtain rfl : c = d := by simpa [hc] using hd
      exact ⟨c.lock u, by simp [hc], ⟨_, rfl⟩, Cell.read_lock hfree u⟩
    · exact ⟨d, by simp [hij, hd], hheld, rfl⟩
  · exact held_modify hc hfree hne hd hheld

/-- A committed value is within the limit: some transaction reads it. -/
lemma Sound.covers (h : s.Sound) {c : Cell TransactionNo Budget} (hc : c ∈ s.budgets) :
    Covers c.committed 0 := by
  rcases hheld : c.held with - | ⟨u, v⟩
  · have hread := h.limit c hc 0
    rwa [Cell.read, hheld] at hread
  · have hread := h.limit c hc (u + 1)
    have hfree : c.Free u := fun x hx => by
      obtain rfl : (u, v) = x := by simpa [hheld] using hx
      rfl
    rwa [Cell.read_of_free hfree (Nat.succ_ne_self u)] at hread

/-! ### Locks and calls -/

lemma Sound.lockBudget (h : s.Sound) {id : BudgetId} {c : Cell TransactionNo Budget}
    (hc : s.budgets[id]? = some c) (hfree : c.Free t) : (s.lockBudget t id).Sound where
  committed id' c' hc' status hstatus := by
    obtain ⟨c₀, hc₀, ⟨-, rfl⟩ | ⟨-, rfl⟩⟩ := getElem?_of_modify hc'
    · exact h.committed id' c₀ hc₀ status hstatus
    · exact h.committed id' c' hc₀ status hstatus
  changes u hu id' c' hc' status hstatus := by
    obtain ⟨c₀, hc₀, ⟨rfl, rfl⟩ | ⟨-, rfl⟩⟩ := getElem?_of_modify hc'
    · obtain rfl : c = c₀ := by simpa [hc] using hc₀
      rw [Cell.change_lock hfree]
      exact h.changes u hu id c hc status hstatus
    · exact h.changes u hu id' c' hc₀ status hstatus
  limit c' hc' u := by
    obtain ⟨j, hj⟩ := List.getElem?_of_mem hc'
    obtain ⟨c₀, hc₀, ⟨rfl, rfl⟩ | ⟨-, rfl⟩⟩ := getElem?_of_modify hj
    · obtain rfl : c = c₀ := by simpa [hc] using hc₀
      rw [Cell.read_lock hfree]
      exact h.limit c (List.mem_of_getElem? hc) u
    · exact h.limit c' (List.mem_of_getElem? hc₀) u
  ready u := (h.ready u).frame (fun id' d hd hheld => held_lock hc hfree hd hheld)
    (fun id' d hd hheld => ⟨d, hd, hheld, rfl⟩)
  settled := h.settled

lemma Sound.lockReservation (h : s.Sound) {id : ReservationId}
    {c : Cell TransactionNo (Option BudgetReservation)} (hc : s.reservations[id]? = some c)
    (hfree : c.Free t) : (s.lockReservation t id).Sound where
  committed id' c' hc' status hstatus := by
    rw [BudgetRows.lockReservation, total_lock hc]
    exact h.committed id' c' hc' status hstatus
  changes u hu id' c' hc' status hstatus := by
    rw [BudgetRows.lockReservation, change_lock hc hfree]
    exact h.changes u hu id' c' hc' status hstatus
  limit := h.limit
  ready u := (h.ready u).frame (fun id' d hd hheld => ⟨d, hd, hheld, rfl⟩)
    (fun id' d hd hheld => held_lock hc hfree hd hheld)
  settled c' hc' row hrow hstatus u := by
    obtain ⟨j, hj⟩ := List.getElem?_of_mem hc'
    obtain ⟨c₀, hc₀, ⟨rfl, rfl⟩ | ⟨-, rfl⟩⟩ := getElem?_of_modify hj
    · obtain rfl : c = c₀ := by simpa [hc] using hc₀
      rw [Cell.read_lock hfree]
      exact h.settled c (List.mem_of_getElem? hc) row hrow hstatus u
    · exact h.settled c' (List.mem_of_getElem? hc₀) row hrow hstatus u

/-- A call moves on without touching a row. -/
lemma Sound.setCall (h : s.Sound) {call : BudgetCall} (hready : s.Ready t call)
    (hpending : call ≠ .aborted → s.calls t ≠ .aborted ∧
      ∀ (id : BudgetId) c, s.budgets[id]? = some c →
        ∀ status, pending id status call = pending id status (s.calls t)) :
    (s.setCall t call).Sound where
  committed := h.committed
  changes u hu id c hc status hstatus := by
    simp only [BudgetRows.setCall, Function.update_apply] at hu ⊢
    split_ifs at hu ⊢ with hut
    · subst hut
      obtain ⟨hne, hsame⟩ := hpending hu
      rw [hsame id c hc]
      exact h.changes u hne id c hc status hstatus
    · exact h.changes u hu id c hc status hstatus
  limit := h.limit
  ready u := by
    simp only [BudgetRows.setCall, Function.update_apply]
    split_ifs with hut
    · subst hut
      exact hready
    · exact h.ready u
  settled := h.settled

/-! ### Writes -/

/-- A call ends by bringing the budget's counters up to date. -/
lemma Sound.writeBudget (h : s.Sound) {id : BudgetId} {c : Cell TransactionNo Budget}
    (hc : s.budgets[id]? = some c) (hfree : c.Free t) (hcall : s.calls t ≠ .aborted) {b : Budget}
    (hcounter : ∀ status, status ≠ .released →
      counter status b = counter status (c.read t) + pending id status (s.calls t))
    (hother : ∀ id', id' ≠ id → ∀ status, pending id' status (s.calls t) = 0)
    (hcovers : Covers b 0) : ((s.writeBudget t id b).setCall t .idle).Sound where
  committed id' c' hc' status hstatus := by
    obtain ⟨c₀, hc₀, ⟨-, rfl⟩ | ⟨-, rfl⟩⟩ := getElem?_of_modify hc'
    · exact h.committed id' c₀ hc₀ status hstatus
    · exact h.committed id' c' hc₀ status hstatus
  changes u hu id' c' hc' status hstatus := by
    simp only [BudgetRows.setCall, BudgetRows.writeBudget, Function.update_apply] at hu hc' ⊢
    obtain ⟨c₀, hc₀, ⟨rfl, rfl⟩ | ⟨hne, rfl⟩⟩ := getElem?_of_modify hc'
    · obtain rfl : c = c₀ := by simpa [hc] using hc₀
      by_cases hut : u = t
      · subst hut
        rw [if_pos rfl, Cell.change_write_self, hcounter status hstatus,
          ← h.changes u hcall id c hc status hstatus, Cell.change]
        simp only [pending]
        ring
      · rw [if_neg hut, Cell.change_write_of_ne hut,
          ← h.changes u (by simpa [hut] using hu) id c hc status hstatus,
          Cell.change_of_free hfree hut]
    · by_cases hut : u = t
      · subst hut
        rw [if_pos rfl, ← h.changes u hcall id' c' hc₀ status hstatus,
          hother id' (Ne.symm hne)]
        rfl
      · rw [if_neg hut]
        exact h.changes u (by simpa [hut] using hu) id' c' hc₀ status hstatus
  limit c' hc' u := by
    obtain ⟨j, hj⟩ := List.getElem?_of_mem hc'
    obtain ⟨c₀, hc₀, ⟨rfl, rfl⟩ | ⟨-, rfl⟩⟩ := getElem?_of_modify hj
    · obtain rfl : c = c₀ := by simpa [hc] using hc₀
      by_cases hut : u = t
      · subst hut
        rwa [Cell.read_write_self]
      · rw [Cell.read_write_of_ne hut, ← Cell.read_of_free hfree hut]
        exact h.limit c (List.mem_of_getElem? hc) u
    · exact h.limit c' (List.mem_of_getElem? hc₀) u
  ready u := by
    simp only [BudgetRows.setCall, Function.update_apply]
    split_ifs with hut
    · trivial
    · exact (h.ready u).frame (fun id' d hd hheld => held_modify hc hfree hut hd hheld)
        (fun id' d hd hheld => ⟨d, hd, hheld, rfl⟩)
  settled := h.settled

/-- A new RESERVED row, for which the call still owes the counter. -/
lemma Sound.insertReservation (h : s.Sound) {id : BudgetId} {requestId : RequestId}
    {amount : Decimal} {currency : String}
    (hcall : s.calls t = .reserving id requestId amount currency) {stored : Amount}
    (hstored : Amount.store amount = .ok stored) :
    ((s.insertReservation t
      { budgetId := id, paymentRequestId := requestId, amount := stored, currency,
        status := .reserved }).setCall t (.inserted id amount)).Sound where
  committed id' c hc status hstatus := by
    have hsame := h.committed id' c hc status hstatus
    simpa [BudgetRows.setCall, BudgetRows.insertReservation, total_append, share] using hsame
  changes u hu id' c hc status hstatus := by
    simp only [BudgetRows.setCall, BudgetRows.insertReservation, Function.update_apply] at hu hc ⊢
    rw [change_append]
    by_cases hut : u = t
    · subst hut
      have hsame := h.changes u (by simp [hcall]) id' c hc status hstatus
      have hunits := Amount.store_eq_ok.mp hstored
      rw [hcall] at hsame
      simp only [pending, add_zero] at hsame
      rw [if_pos rfl, hsame]
      simp only [Cell.change, Cell.read, pending, share, if_true, hunits, eq_comm (a := status)]
      ring
    · have hsame := h.changes u (by simpa [hut] using hu) id' c hc status hstatus
      rw [if_neg hut, hsame]
      simp [Cell.change, Cell.read, Ne.symm hut]
  limit := h.limit
  ready u := by
    simp only [BudgetRows.setCall, Function.update_apply]
    split_ifs with hut
    · subst hut
      have hready := h.ready u
      rw [hcall] at hready
      exact ⟨⟨stored, hstored⟩, hready⟩
    · refine (h.ready u).frame (fun id' d hd hheld => ⟨d, hd, hheld, rfl⟩) ?_
      intro id' d hd hheld
      refine ⟨d, ?_, hheld, rfl⟩
      exact List.getElem?_append_left (List.getElem?_eq_some_iff.mp hd).1 ▸ hd
  settled c hc row hrow hstatus u := by
    rcases List.mem_append.mp hc with hc | hc
    · exact h.settled c hc row hrow hstatus u
    · obtain rfl := List.mem_singleton.mp hc
      exact absurd hrow (by simp)

/-- What a settlement does to the sums is what the call then owes the counters. -/
lemma share_settled (id : BudgetId) (status : ReservationStatus) {row : BudgetReservation}
    (hrow : row.status = .reserved) (call : SettleCall) :
    share id status (some { row with status := call.status }) - share id status (some row) =
      pending id status (.marked row.budgetId row.amount call) := by
  simp only [share, pending, hrow, eq_comm (a := status)]
  by_cases hid : row.budgetId = id
  · simp only [hid, true_and, if_true]
  · simp [hid]

/-- A reservation leaves RESERVED. -/
lemma Sound.writeReservation (h : s.Sound) {id : ReservationId} {call : SettleCall}
    (hcall : s.calls t = .settling id call) {c : Cell TransactionNo (Option BudgetReservation)}
    (hc : s.reservations[id]? = some c) (hfree : c.Free t) {row : BudgetReservation}
    (hread : c.read t = some row) (hrow : row.status = .reserved) :
    ((s.writeReservation t id { row with status := call.status }).setCall t
      (.marked row.budgetId row.amount call)).Sound where
  committed id' b hb status hstatus := by
    have hsame := h.committed id' b hb status hstatus
    rwa [← total_write hc t (some { row with status := call.status })] at hsame
  changes u hu id' b hb status hstatus := by
    simp only [BudgetRows.setCall, BudgetRows.writeReservation, Function.update_apply] at hu hb ⊢
    by_cases hut : u = t
    · subst hut
      have hsame := h.changes u (by simp [hcall]) id' b hb status hstatus
      rw [hcall] at hsame
      simp only [pending, add_zero] at hsame
      rw [if_pos rfl, change_write hc, hread, hsame, share_settled id' status hrow]
    · rw [if_neg hut, change_write_of_ne hc hfree hut]
      exact h.changes u (by simpa [hut] using hu) id' b hb status hstatus
  limit := h.limit
  ready u := by
    simp only [BudgetRows.setCall, Function.update_apply]
    split_ifs with hut
    · trivial
    · exact (h.ready u).frame (fun id' d hd hheld => ⟨d, hd, hheld, rfl⟩)
        (fun id' d hd hheld => held_modify hc hfree hut hd hheld)
  settled c' hc' row' hrow' hstatus u := by
    obtain ⟨j, hj⟩ := List.getElem?_of_mem hc'
    obtain ⟨c₀, hc₀, ⟨rfl, rfl⟩ | ⟨-, rfl⟩⟩ := getElem?_of_modify hj
    · obtain rfl : c = c₀ := by simpa [hc] using hc₀
      -- The row would be settled already, and `t` has found it RESERVED.
      have hsettled := h.settled c (List.mem_of_getElem? hc) row' hrow' hstatus t
      obtain rfl : row = row' := by simpa [hread] using hsettled
      exact absurd hrow hstatus
    · exact h.settled c' (List.mem_of_getElem? hc₀) row' hrow' hstatus u

/-! ### Ends of transactions -/

lemma Sound.commit (h : s.Sound) (hcall : s.calls t = .idle) :
    Sound { s with
      budgets := s.budgets.map (Cell.commit t)
      reservations := s.reservations.map (Cell.commit t) } where
  committed id c' hc' status hstatus := by
    obtain ⟨c, hc, rfl⟩ := getElem?_of_map hc'
    have hcommitted := h.committed id c hc status hstatus
    have hchanges := h.changes t (by simp [hcall]) id c hc status hstatus
    rw [hcall, Cell.change] at hchanges
    simp only [pending, add_zero] at hchanges
    rw [Cell.committed_commit, total_commit, ← hcommitted, ← hchanges]
    ring
  changes u hu id c' hc' status hstatus := by
    obtain ⟨c, hc, rfl⟩ := getElem?_of_map hc'
    by_cases hut : u = t
    · subst hut
      simp [hcall, pending]
    · simp only [Cell.change_commit_of_ne hut, change_commit_of_ne hut]
      exact h.changes u hu id c hc status hstatus
  limit c' hc' u := by
    obtain ⟨c, hc, rfl⟩ := List.mem_map.mp hc'
    rcases c.read_commit t u with ⟨hread, -⟩ | hread
    · exact hread ▸ h.limit c hc u
    · exact hread ▸ h.limit c hc t
  ready u := by
    by_cases hut : u = t
    · subst hut
      simp only [hcall]
      trivial
    · refine (h.ready u).frame ?_ ?_
      all_goals
        rintro id c hc ⟨v, hv⟩
        exact ⟨c, by simp [hc, Cell.commit_of_held hut hv], ⟨v, hv⟩, rfl⟩
  settled c' hc' row hrow hstatus u := by
    obtain ⟨c, hc, rfl⟩ := List.mem_map.mp hc'
    rw [Cell.committed_commit] at hrow
    rcases c.read_commit t u with ⟨hread, hsame⟩ | hread
    · rw [Cell.committed_commit, hrow] at hsame
      exact hread ▸ h.settled c hc row hsame.symm hstatus u
    · exact hread ▸ hrow

lemma Sound.rollback (h : s.Sound) :
    Sound {
      budgets := s.budgets.map (Cell.rollback t)
      reservations := s.reservations.map (Cell.rollback t)
      calls := Function.update s.calls t .idle } where
  committed id c' hc' status hstatus := by
    obtain ⟨c, hc, rfl⟩ := getElem?_of_map hc'
    rw [Cell.committed_rollback, total_rollback]
    exact h.committed id c hc status hstatus
  changes u hu id c' hc' status hstatus := by
    obtain ⟨c, hc, rfl⟩ := getElem?_of_map hc'
    by_cases hut : u = t
    · subst hut
      simp [pending]
    · simp only [Function.update_of_ne hut] at hu ⊢
      simp only [Cell.change_rollback_of_ne hut, change_rollback_of_ne hut]
      exact h.changes u hu id c hc status hstatus
  limit c' hc' u := by
    obtain ⟨c, hc, rfl⟩ := List.mem_map.mp hc'
    rcases c.read_rollback t u with hread | hread
    · exact hread ▸ h.limit c hc u
    · exact hread ▸ h.covers hc
  ready u := by
    by_cases hut : u = t
    · subst hut
      simp only [Function.update_self]
      trivial
    · simp only [Function.update_of_ne hut]
      refine (h.ready u).frame ?_ ?_
      all_goals
        rintro id c hc ⟨v, hv⟩
        exact ⟨c, by simp [hc, Cell.rollback_of_held hut hv], ⟨v, hv⟩, rfl⟩
  settled c' hc' row hrow hstatus u := by
    obtain ⟨c, hc, rfl⟩ := List.mem_map.mp hc'
    rw [Cell.committed_rollback] at hrow
    rcases c.read_rollback t u with hread | hread
    · exact hread ▸ h.settled c hc row hrow hstatus u
    · exact hread ▸ hrow

/-! ### One statement -/

lemma covers_of_accepts {b : Budget} {requestCurrency : String} {requested : Decimal}
    (h : ¬b.refuses requestCurrency requested = true) : Covers b requested.units := by
  simp only [Budget.refuses, Bool.or_eq_true, decide_eq_true_eq, not_or, not_lt] at h
  have := h.2
  rw [Covers]
  linarith

/-- The counter grows by what the reservation has stored, and stays within the limit: the exact
request fits, and the limit is a whole number of ten-thousandths. -/
lemma addReserved_sound {b : Budget} {amount : Decimal} {stored : Amount}
    (hstored : Amount.store amount = .ok stored) (hcovers : Covers b amount.units) :
    ((b.addReserved amount).reservedAmount : ℤ) = b.reservedAmount + roundUnits amount.units ∧
      Covers (b.addReserved amount) 0 := by
  have hunits := Amount.store_eq_ok.mp hstored
  have hpos := stored.pos
  have hnonneg : 0 ≤ amount.units := by
    by_contra hneg
    have := roundUnits_nonpos (not_le.mp hneg)
    omega
  have hreserved : ((b.addReserved amount).reservedAmount : ℤ) =
      b.reservedAmount + roundUnits amount.units := by
    simp only [Budget.addReserved, roundUnits_natCast_add _ hnonneg]
    omega
  refine ⟨hreserved, ?_⟩
  have hround : roundUnits (b.reservedAmount + amount.units) ≤
      (b.limitAmount : ℤ) - b.consumedAmount := by
    apply roundUnits_le
    rw [Covers] at hcovers
    push_cast
    linarith
  rw [roundUnits_natCast_add _ hnonneg, ← hreserved] at hround
  have hround : ((b.addReserved amount).reservedAmount : ℚ) ≤
      (b.limitAmount : ℚ) - b.consumedAmount := by exact_mod_cast hround
  simp only [Covers, Budget.addReserved] at hround ⊢
  linarith

/-- `consume` and `release` move what the call owes, out of what is reserved. -/
lemma budget_sound {call : SettleCall} {b b' : Budget} {amount : Amount}
    (h : call.budget b amount = .ok b') (hcovers : Covers b 0) (id : BudgetId) :
    (∀ status, status ≠ .released →
      counter status b' = counter status b + pending id status (.marked id amount call)) ∧
      Covers b' 0 := by
  cases call with
  | consume =>
    simp only [SettleCall.budget, Budget.consume] at h
    split_ifs at h with hle
    obtain rfl := Except.ok.inj h
    have hle : (amount.units : ℤ) ≤ b.reservedAmount := by exact_mod_cast hle
    refine ⟨fun status hstatus => ?_, ?_⟩
    · cases status <;> simp [counter, pending, SettleCall.status] at hstatus ⊢
      omega
    · simp only [Covers] at hcovers ⊢
      push_cast [Nat.cast_sub (Int.ofNat_le.mp hle)]
      linarith
  | release =>
    simp only [SettleCall.budget, Budget.release] at h
    split_ifs at h with hle
    obtain rfl := Except.ok.inj h
    have hle : (amount.units : ℤ) ≤ b.reservedAmount := by exact_mod_cast hle
    refine ⟨fun status hstatus => ?_, ?_⟩
    · cases status <;> simp [counter, pending, SettleCall.status] at hstatus ⊢
      omega
    · have hpos := amount.units_cast_pos
      simp only [Covers] at hcovers ⊢
      push_cast [Nat.cast_sub (Int.ofNat_le.mp hle)]
      linarith

lemma Sound.reserve (h : s.Sound) (t : TransactionNo) (id : BudgetId) (requestId : RequestId)
    (requestCurrency : String) (amount : Decimal) :
    (s.step (.reserve t id requestId requestCurrency amount)).Sound := by
  simp only [step]
  split
  · rename_i c hcall hc
    split_ifs with hfree hrefuses
    · exact h.lockBudget hc hfree
    · refine (h.lockBudget hc hfree).setCall ?_ fun _ => ⟨?_, ?_⟩
      · refine ⟨c.lock t, by simp [BudgetRows.lockBudget, hc], ⟨_, rfl⟩, ?_⟩
        rw [Cell.read_lock hfree]
        exact covers_of_accepts hrefuses
      · exact fun hne => by simp [BudgetRows.lockBudget, hcall] at hne
      · intro id' c' _ status
        simp only [BudgetRows.lockBudget, hcall]
        rfl
    · exact h
  · exact h

lemma Sound.abort (h : s.Sound) : (s.setCall t .aborted).Sound :=
  h.setCall trivial fun hne => absurd rfl hne

lemma Sound.insert (h : s.Sound) (t : TransactionNo) : (s.step (.insert t)).Sound := by
  simp only [step]
  split
  · rename_i id requestId amount currency hcall
    split_ifs with hawaited htaken
    · exact h
    · exact h.abort
    · split
      · exact h.abort
      · rename_i stored hstored
        exact h.insertReservation hcall hstored
  · exact h

lemma Sound.addReserved (h : s.Sound) (t : TransactionNo) : (s.step (.addReserved t)).Sound := by
  simp only [step]
  split
  · rename_i id amount hcall
    have hready := h.ready t
    rw [hcall] at hready
    obtain ⟨⟨stored, hstored⟩, c, hc, hheld, hcovers⟩ := hready
    obtain ⟨hreserved, hcovers⟩ := addReserved_sound hstored hcovers
    simp only [hc, if_pos hheld.free]
    refine h.writeBudget hc hheld.free (by simp [hcall]) ?_ ?_ hcovers
    · intro status hstatus
      rw [hcall]
      cases status with
      | reserved => simpa [counter, pending] using hreserved
      | consumed => simp [counter, pending, Budget.addReserved]
      | released => exact absurd rfl hstatus
    · intro id' hne status
      simp [hcall, pending, Ne.symm hne]
  · exact h

lemma Sound.settle (h : s.Sound) (t : TransactionNo) (id : ReservationId) (call : SettleCall) :
    (s.step (.settle t id call)).Sound := by
  simp only [step]
  split
  · rename_i hcall
    split
    · exact h.abort
    · rename_i c hc
      split
      · exact h.abort
      · rename_i row hrow
        split_ifs with hfree hstatus
        · exact h.lockReservation hc hfree
        · refine (h.lockReservation hc hfree).setCall ?_ fun _ => ⟨?_, ?_⟩
          · refine ⟨c.lock t, row, by simp [BudgetRows.lockReservation, hc], ⟨_, rfl⟩, ?_,
              not_not.mp hstatus⟩
            rw [Cell.read_lock hfree]
            exact hrow
          · exact fun hne => by simp [BudgetRows.lockReservation, hcall] at hne
          · intro id' c' _ status
            simp only [BudgetRows.lockReservation, hcall]
            rfl
        · exact h
  · exact h

lemma Sound.mark (h : s.Sound) (t : TransactionNo) : (s.step (.mark t)).Sound := by
  simp only [step]
  split
  · rename_i id call hcall
    have hready := h.ready t
    rw [hcall] at hready
    obtain ⟨c, row, hc, hheld, hread, hrow⟩ := hready
    simp only [hc, Option.bind_some, hread]
    exact h.writeReservation hcall hc hheld.free hread hrow
  · exact h

lemma Sound.move (h : s.Sound) (t : TransactionNo) : (s.step (.move t)).Sound := by
  simp only [step]
  split
  · rename_i id amount call hcall
    split
    · rename_i c hc
      split_ifs with hfree
      · split
        · rename_i b hb
          have hbudget := budget_sound hb (h.limit c (List.mem_of_getElem? hc) t) id
          refine h.writeBudget hc hfree (by simp [hcall]) ?_ ?_ hbudget.2
          · rw [hcall]
            exact hbudget.1
          · intro id' hne status
            simp [hcall, pending, Ne.symm hne]
        · exact h.abort
      · exact h
    · rename_i hc
      refine h.setCall trivial fun _ => ⟨by simp [hcall], fun id' c hc' status => ?_⟩
      have hne : id ≠ id' := by
        rintro rfl
        simp [hc] at hc'
      simp [hcall, pending, hne]
  · exact h

/-- Every statement of every transaction keeps the invariant. -/
lemma step_sound (s : BudgetRows) (statement : BudgetStatement) (h : s.Sound) :
    (s.step statement).Sound := by
  cases statement with
  | reserve t id requestId requestCurrency amount =>
    exact h.reserve t id requestId requestCurrency amount
  | insert t => exact h.insert t
  | addReserved t => exact h.addReserved t
  | settle t id call => exact h.settle t id call
  | mark t => exact h.mark t
  | move t => exact h.move t
  | commit t =>
    simp only [step]
    split_ifs with hcall
    · exact h.commit hcall
    · exact h
  | rollback t => exact h.rollback

/-! ### Committed states -/

/-- The reservations that have left RESERVED keep their rows. -/
def KeepsSettled (s s' : BudgetRows) : Prop :=
  ∀ (id : ReservationId) row, s.reservation id = some row → row.status ≠ .reserved →
    s'.reservation id = some row

lemma total_share (rows : List (Cell TransactionNo (Option BudgetReservation))) (id : BudgetId)
    (status : ReservationStatus) :
    total (share id status) rows = reservedUnder (rows.filterMap Cell.committed) id status := by
  induction rows with
  | nil => rfl
  | cons c rows ih =>
    rw [total, List.map_cons, List.sum_cons, ← total, ih]
    cases hc : c.committed with
    | none => simp [share, hc]
    | some r =>
      simp only [share, List.filterMap_cons, hc, reservedUnder, List.map_cons, List.sum_cons]
      push_cast
      rfl

/-- The invariant in the terms of the tables. -/
lemma Sound.agree (h : s.Sound) : BudgetsAgree s.committedBudgets s.committedReservations := by
  intro id b hb
  obtain ⟨c, hc, rfl⟩ := getElem?_of_map hb
  have hreserved := h.committed id c hc .reserved (by simp)
  have hconsumed := h.committed id c hc .consumed (by simp)
  have hlimit := h.covers (List.mem_of_getElem? hc)
  rw [total_share] at hreserved hconsumed
  refine ⟨Int.ofNat_inj.mp hreserved, Int.ofNat_inj.mp hconsumed, ?_⟩
  rw [Covers, add_zero] at hlimit
  exact_mod_cast hlimit

/-! ### Settled reservations -/

/-- A row's committed value becomes at most what a transaction reads there. -/
def Commits (s s' : BudgetRows) : Prop :=
  ∀ (id : ReservationId) c, s.reservations[id]? = some c →
    ∃ c', s'.reservations[id]? = some c' ∧
      (c'.committed = c.committed ∨ ∃ t, c'.committed = c.read t)

lemma Commits.refl (s : BudgetRows) : s.Commits s := fun _ c hc => ⟨c, hc, .inl rfl⟩

lemma Commits.insertReservation (s : BudgetRows) (t : TransactionNo) (r : BudgetReservation) :
    s.Commits (s.insertReservation t r) := by
  intro id c hc
  refine ⟨c, ?_, .inl rfl⟩
  rw [BudgetRows.insertReservation, List.getElem?_append_left (List.getElem?_eq_some_iff.mp hc).1]
  exact hc

/-- Locks and writes leave every committed value alone. -/
lemma Commits.modify {s s' : BudgetRows} {i : ReservationId}
    {f : Cell TransactionNo (Option BudgetReservation) →
      Cell TransactionNo (Option BudgetReservation)}
    (hf : ∀ c, (f c).committed = c.committed)
    (h : s'.reservations = s.reservations.modify i f) : s.Commits s' := by
  intro id c hc
  rw [h]
  by_cases hid : i = id
  · subst hid
    exact ⟨f c, by simp [hc], .inl (hf c)⟩
  · exact ⟨c, by simp [hid, hc], .inl rfl⟩

lemma Commits.commit (s : BudgetRows) (t : TransactionNo) : s.Commits (s.step (.commit t)) := by
  simp only [step]
  split_ifs
  · exact fun id c hc => ⟨c.commit t, by simp [hc], .inr ⟨t, by simp⟩⟩
  · exact Commits.refl s

lemma Commits.rollback (s : BudgetRows) (t : TransactionNo) :
    s.Commits (s.step (.rollback t)) :=
  fun _ c hc => ⟨c.rollback t, by simp [step, hc], .inl (by simp)⟩

lemma step_commits (s : BudgetRows) (statement : BudgetStatement) :
    s.Commits (s.step statement) := by
  cases statement with
  | commit t => exact Commits.commit s t
  | rollback t => exact Commits.rollback s t
  | insert t =>
    simp only [step]
    repeat' split
    all_goals first | exact Commits.refl s | exact Commits.insertReservation s t _
  | _ =>
    simp only [step]
    repeat' split
    all_goals first
      | exact Commits.refl s
      | exact Commits.modify (f := (·.lock _)) (fun _ => rfl) rfl
      | exact Commits.modify (f := (·.write _ _)) (fun _ => rfl) rfl

/-- A committed reservation that has left RESERVED is what every transaction reads, so nothing
else is ever committed there. -/
lemma step_keepsSettled (s : BudgetRows) (statement : BudgetStatement) (h : s.Sound) :
    s.KeepsSettled (s.step statement) := by
  intro id row hrow hstatus
  obtain ⟨c, hc, hcommitted⟩ := Option.bind_eq_some_iff.mp hrow
  obtain ⟨c', hc', heq | ⟨t, heq⟩⟩ := step_commits s statement id c hc
  · exact Option.bind_eq_some_iff.mpr ⟨c', hc', heq.trans hcommitted⟩
  · have hread := h.settled c (List.mem_of_getElem? hc) row hcommitted hstatus t
    exact Option.bind_eq_some_iff.mpr ⟨c', hc', heq.trans hread⟩

/-! ### Runs -/

lemma getElem?_of_start {budgets : List Budget} {reservations : List BudgetReservation}
    {id : BudgetId} {c : Cell TransactionNo Budget}
    (h : (start budgets reservations).budgets[id]? = some c) :
    ∃ b, budgets[id]? = some b ∧ ⟨b, none⟩ = c :=
  getElem?_of_map h

lemma start_sound {budgets : List Budget} {reservations : List BudgetReservation}
    (h : BudgetsAgree budgets reservations) : (start budgets reservations).Sound where
  committed id c hc status hstatus := by
    obtain ⟨b, hb, rfl⟩ := getElem?_of_start hc
    obtain ⟨hreserved, hconsumed, -⟩ := h id b hb
    have hrows : (start budgets reservations).reservations.filterMap Cell.committed =
        reservations := by
      simp [start]
    rw [total_share, hrows]
    cases status with
    | reserved => exact congrArg Nat.cast hreserved
    | consumed => exact congrArg Nat.cast hconsumed
    | released => exact absurd rfl hstatus
  changes t _ id c hc status hstatus := by
    obtain ⟨b, hb, rfl⟩ := getElem?_of_start hc
    simp [start, pending, change, Cell.change, Cell.read, Function.comp_def]
  limit c hc t := by
    obtain ⟨b, hb, rfl⟩ := List.mem_map.mp hc
    obtain ⟨id, hid⟩ := List.getElem?_of_mem hb
    have hlimit := (h id b hid).2.2
    simp only [Cell.read, Covers, add_zero]
    exact_mod_cast hlimit
  ready t := trivial
  settled c hc row hrow _ t := by
    obtain ⟨r, -, rfl⟩ := List.mem_map.mp hc
    exact hrow

theorem run_sound {s : BudgetRows} (h : s.Sound) (schedule : List BudgetStatement) :
    (Machine.run step s schedule).Sound :=
  Machine.run_invariant step_sound h schedule

theorem run_keepsSettled {s : BudgetRows} (h : s.Sound) (schedule : List BudgetStatement) :
    s.KeepsSettled (Machine.run step s schedule) := by
  refine Machine.run_relates ?_ ?_ step_sound step_keepsSettled h schedule
  · exact fun s id row hrow _ => hrow
  · exact fun s t u hst htu id row hrow hstatus => htu id row (hst id row hrow hstatus) hstatus

end BudgetRows

/-! ### The budgets -/

/-- Whatever the transactions do, and however their statements interleave, in every committed
state each budget's counters are the sums of its reservations and within its limit, and a
reservation that has been consumed or released stays so. -/
theorem run_budgetsAgree (budgets : List Budget) (reservations : List BudgetReservation)
    (h : BudgetsAgree budgets reservations) (schedule later : List BudgetStatement) :
    let s := Machine.run BudgetRows.step (BudgetRows.start budgets reservations) schedule
    BudgetsAgree s.committedBudgets s.committedReservations ∧
      s.KeepsSettled (Machine.run BudgetRows.step s later) := by
  have hsound := BudgetRows.run_sound (BudgetRows.start_sound h) schedule
  exact ⟨hsound.agree, BudgetRows.run_keepsSettled hsound later⟩

/-- A budget of 100 and two transactions that reserve 60 at once: the second waits, finds 40
available and gets nothing. The first reservation is then consumed. -/
def twoSixties : List BudgetStatement :=
  [.reserve 0 0 0 "USD" ⟨60, 0⟩, .reserve 1 0 1 "USD" ⟨60, 0⟩, .insert 0, .addReserved 0,
    .reserve 1 0 1 "USD" ⟨60, 0⟩, .commit 0, .reserve 1 0 1 "USD" ⟨60, 0⟩, .commit 1,
    .settle 1 0 .consume, .mark 1, .move 1, .commit 1]

theorem run_budgetsAgree_twoSixties :
    let budgets : List Budget := [⟨"acct", none, "USD", 1000000, 0, 0, true, none, none⟩]
    let s := Machine.run BudgetRows.step (BudgetRows.start budgets []) twoSixties
    s.committedBudgets.map (fun b => (b.consumedAmount, b.reservedAmount)) = [(600000, 0)] ∧
      BudgetsAgree s.committedBudgets s.committedReservations ∧
      s.KeepsSettled (Machine.run BudgetRows.step s [.settle 0 0 .release, .mark 0, .move 0]) := by
  intro budgets s
  have hstart : BudgetsAgree budgets [] := by
    intro id b hb
    obtain rfl := List.mem_singleton.mp (List.mem_of_getElem? hb)
    exact ⟨rfl, rfl, by decide⟩
  exact ⟨by decide +kernel, run_budgetsAgree budgets [] hstart twoSixties _⟩

end AgentPay
