import AgentPay.BudgetRows

/-!
# Repeated reservations

`reserve`, `consume` and `release` in any number of transactions at once. `reserve` locks a budget
row and never looks for a reservation of its request: a repeat on the same budget runs into the
unique index on budget and request, one on another budget reserves a second time, and so do two
calls on two budgets that overlap, neither of which could see the other's row.
-/

namespace AgentPay

open Support RowLock

/-- The rows of `budget_reservations`, each under its lock. -/
abbrev ReservationCells := List (Cell TransactionNo (Option BudgetReservation))

/-- The row is a RESERVED reservation of the request. -/
def LiveRow (requestId : RequestId) (row : Option BudgetReservation) : Prop :=
  ∃ r ∈ row, r.paymentRequestId = requestId ∧ r.status = .reserved

instance (requestId : RequestId) : DecidablePred (LiveRow requestId) := fun row =>
  decidable_of_iff (row.any fun r => decide (r.paymentRequestId = requestId ∧ r.status = .reserved))
    (by simp [LiveRow, Option.any_eq_true])

lemma not_liveRow_none {requestId : RequestId} : ¬ LiveRow requestId none := by
  rintro ⟨r, hr, -⟩
  cases hr

lemma LiveRow.status {requestId : RequestId} {r : BudgetReservation}
    (h : LiveRow requestId (some r)) :
    r.paymentRequestId = requestId ∧ r.status = .reserved := by
  obtain ⟨r', hr', h⟩ := h
  obtain rfl := Option.some.inj hr'
  exact h

namespace BudgetRows

/-! ### Answers -/

/-- The request holds the reservation: it is committed and RESERVED. -/
def Holds (rows : ReservationCells) (requestId : RequestId) (id : ReservationId) : Prop :=
  ∃ c ∈ rows[id]?, LiveRow requestId c.committed

instance (rows : ReservationCells) (requestId : RequestId) (id : ReservationId) :
    Decidable (Holds rows requestId id) := by
  unfold Holds
  infer_instance

/-- The transaction sees that the request holds the reservation. -/
def Sees (rows : ReservationCells) (t : TransactionNo) (requestId : RequestId)
    (id : ReservationId) : Prop :=
  ∃ c ∈ rows[id]?, LiveRow requestId (c.read t)

/-- The call of `reserve` that a statement settles, with its answer if it has one: `none` if the
budget is missing or refuses, or the insert raises, and otherwise the row that is inserted. -/
def answered (s : BudgetRows) :
    BudgetStatement → Option (TransactionNo × RequestId × Option ReservationId)
  | .reserve t id requestId requestCurrency amount =>
    match s.calls t, s.budgets[id]? with
    | .idle, none => some (t, requestId, none)
    | .idle, some c =>
      if c.Free t ∧ (c.read t).refuses requestCurrency amount then some (t, requestId, none)
      else none
    | _, _ => none
  | .insert t =>
    match s.calls t with
    | .reserving id requestId amount _ =>
      if s.Awaited t id requestId then none
      else if s.Taken t id requestId then some (t, requestId, none)
      else
        match Amount.store amount with
        | .error _ => some (t, requestId, none)
        | .ok _    => some (t, requestId, some s.reservations.length)
    | _ => none
  | _ => none

/-- The statements of `reserve`, undisturbed, come to the answer of the function. -/
theorem answered_reserve (db : Db) (t : TransactionNo) (id : BudgetId) (requestId : RequestId)
    (amount : Decimal) :
    let s := start db.budgets db.budgetReservations.rows
    let call := BudgetStatement.reserve t id requestId
      (BudgetRepository.requestCurrency db requestId) amount
    (s.answered call).or ((s.step call).answered (.insert t)) =
      some (t, requestId,
        (BudgetRepository.reserve db id requestId amount).toOption.bind (·.1)) := by
  intro s call
  have hidle : s.calls t = .idle := rfl
  rw [BudgetRepository.reserve]
  cases hrow : db.budgets[id]? with
  | none =>
    have hnone : s.budgets[id]? = none := by simp [s, start, hrow]
    simp only [call, answered, hidle, hnone]
    rfl
  | some row =>
    have hc : s.budgets[id]? = some ⟨row, none⟩ := by simp [s, start, hrow]
    have hfree := Cell.free_unheld row t
    by_cases hrefuses : row.refuses (BudgetRepository.requestCurrency db requestId) amount = true
    · simp only [call, answered, hidle, hc, hfree, Cell.read, hrefuses, and_self, if_true]
      rfl
    have hnext : s.step call =
        (s.lockBudget t id).setCall t (.reserving id requestId amount row.currency) := by
      simp [call, step, hidle, hc, hfree, Cell.read, hrefuses]
    have hcall : (s.step call).calls t = .reserving id requestId amount row.currency := by
      simp [hnext, setCall]
    have hrows : (s.step call).reservations = db.budgetReservations.rows.map (⟨some ·, none⟩) := by
      rw [hnext]
      rfl
    have hawaited : ¬ (s.step call).Awaited t id requestId := by
      simp [Awaited, hrows]
    have hfirst : s.answered call = none := by
      simp [call, answered, hidle, hc, Cell.read, hrefuses]
    have hkey (stored : Amount) : BudgetReservation.key
        ⟨id, requestId, stored, row.currency, .reserved⟩ = some (id, requestId) := rfl
    -- the unique index is asked of the same rows
    have htaken : (s.step call).Taken t id requestId ↔
        ∃ r ∈ db.budgetReservations.rows, r.key = some (id, requestId) := by
      simp [Taken, hrows, Cell.read, BudgetReservation.key]
    rw [hfirst, Option.none_or]
    simp only [answered, hcall, if_neg hawaited, if_neg hrefuses]
    by_cases hexists : (s.step call).Taken t id requestId
    · rw [if_pos hexists]
      cases hstored : Amount.store amount with
      | error e => rfl
      | ok stored =>
        have hinsert := (Table.insert?_eq_none_iff (hkey stored)).mpr (htaken.mp hexists)
        simp only [hinsert, bind, Except.bind]
        rfl
    · rw [if_neg hexists]
      cases hstored : Amount.store amount with
      | error e => rfl
      | ok stored =>
        cases hinsert : db.budgetReservations.insert?
            ⟨id, requestId, stored, row.currency, .reserved⟩ with
        | none =>
          exact absurd (htaken.mpr ((Table.insert?_eq_none_iff (hkey stored)).mp hinsert)) hexists
        | some reservations =>
          simp only [hinsert, bind, Except.bind, hrows, List.length_map]
          rfl

/-- What is answered with a reservation is answered with a new one. -/
lemma answered_new {s : BudgetRows} {statement : BudgetStatement} {t : TransactionNo}
    {requestId : RequestId} {id : ReservationId}
    (h : s.answered statement = some (t, requestId, some id)) : id = s.reservations.length := by
  cases statement with
  | reserve =>
    simp only [answered] at h
    split at h
    · cases h
    · split_ifs at h
      cases h
    · cases h
  | insert =>
    simp only [answered] at h
    split at h
    · split_ifs at h
      · cases h
      · split at h
        · cases h
        · exact (Option.some.inj (Prod.mk.inj (Prod.mk.inj (Option.some.inj h)).2).2).symm
    · cases h
  | _ => cases h

/-! ### The promise -/

/-- A call for a request that holds a reservation is answered with it and changes nothing, and no
request holds two reservations. -/
structure Idempotent (s : BudgetRows) (statement : BudgetStatement) : Prop where
  repeated : ∀ t requestId answer, s.answered statement = some (t, requestId, answer) →
    ∀ id, Sees s.reservations t requestId id →
      answer = some id ∧ (s.step statement).view t = s.view t
  unique : ∀ requestId id id', Holds (s.step statement).reservations requestId id →
    Holds (s.step statement).reservations requestId id' → id = id'

/-- The transaction has inserted a reservation of a request of which another is committed now. -/
def Overtaken (s : BudgetRows) (t : TransactionNo) : Prop :=
  ∃ c ∈ s.reservations, c.committed = none ∧ ∃ r ∈ c.read t, r.status = .reserved ∧
    ∃ c' ∈ s.reservations, c'.committed ≠ none ∧ LiveRow r.paymentRequestId (c'.read t)

instance (s : BudgetRows) : DecidablePred s.Overtaken := fun t => by
  unfold Overtaken
  infer_instance

/-- The transaction that a statement ends, if its calls are over. -/
def ends (s : BudgetRows) : BudgetStatement → Option TransactionNo
  | .commit t => if s.calls t = .idle then some t else none
  | _         => none

/-- No call is answered for a request that holds a reservation, and no transaction commits one that
has been overtaken. -/
structure First (s : BudgetRows) (statement : BudgetStatement) : Prop where
  unseen : ∀ x ∈ s.answered statement, ∀ c ∈ s.reservations, ¬ LiveRow x.2.1 (c.read x.1)
  alone : ∀ t ∈ s.ends statement, ¬ s.Overtaken t

instance (s : BudgetRows) (statement : BudgetStatement) : Decidable (s.First statement) :=
  decidable_of_iff
    ((∀ x ∈ s.answered statement, ∀ c ∈ s.reservations, ¬ LiveRow x.2.1 (c.read x.1)) ∧
      ∀ t ∈ s.ends statement, ¬ s.Overtaken t)
    ⟨fun h => ⟨h.1, h.2⟩, fun h => ⟨h.unseen, h.alone⟩⟩

/-! ### What a statement does to the rows -/

/-- What a statement makes of the reservations. -/
inductive Rewrites (s : BudgetRows) (statement : BudgetStatement) : ReservationCells → Prop where
  | kept : Rewrites s statement s.reservations
  | locks {t : TransactionNo} {i : ReservationId} {c} (hc : s.reservations[i]? = some c)
      (hfree : c.Free t) : Rewrites s statement (s.reservations.modify i (·.lock t))
  | settles {t : TransactionNo} {i : ReservationId} {r : BudgetReservation}
      (hstatus : r.status ≠ .reserved) :
      Rewrites s statement (s.reservations.modify i (·.write t (some r)))
  | inserts {t : TransactionNo} {r : BudgetReservation} (hanswered : s.answered statement =
      some (t, r.paymentRequestId, some s.reservations.length)) :
      Rewrites s statement (s.reservations ++ [⟨none, some (t, some r)⟩])
  | commits {t : TransactionNo} (hends : s.ends statement = some t) :
      Rewrites s statement (s.reservations.map (Cell.commit t))
  | rollsBack {t : TransactionNo} : Rewrites s statement (s.reservations.map (Cell.rollback t))

lemma step_rewrites (s : BudgetRows) (statement : BudgetStatement) :
    s.Rewrites statement (s.step statement).reservations := by
  cases statement with
  | reserve =>
    simp only [step]
    repeat' split
    all_goals exact .kept
  | insert t =>
    simp only [step]
    split
    · rename_i id requestId amount currency hcall
      split_ifs with hawaited htaken
      · exact .kept
      · exact .kept
      · split
        · exact .kept
        · rename_i stored hstored
          exact .inserts (by
            simp only [answered, hcall, if_neg hawaited, if_neg htaken, hstored])
    · exact .kept
  | addReserved =>
    simp only [step]
    repeat' split
    all_goals exact .kept
  | settle t id call =>
    simp only [step]
    repeat' split
    all_goals first | exact .kept | exact .locks (by assumption) (by assumption)
  | mark t =>
    simp only [step]
    split
    · rename_i call _
      split
      · exact .settles (by cases call <;> simp [SettleCall.status])
      · exact .kept
    · exact .kept
  | move =>
    simp only [step]
    repeat' split
    all_goals exact .kept
  | commit t =>
    simp only [step]
    split_ifs with hcall
    · exact .commits (if_pos hcall)
    · exact .kept
  | rollback t => exact .rollsBack

/-! ### The invariant -/

/-- The transaction has inserted the reservation for the request. -/
def Owns (rows : ReservationCells) (t : TransactionNo) (requestId : RequestId)
    (id : ReservationId) : Prop :=
  ∃ c, rows[id]? = some c ∧ c.committed = none ∧ LiveRow requestId (c.read t)

/-- A request holds one reservation at most, a transaction has inserted one at most for it, and what
a transaction sees is committed or its own. -/
structure Single (rows : ReservationCells) : Prop where
  held : ∀ requestId id id', Holds rows requestId id → Holds rows requestId id' → id = id'
  own : ∀ t requestId id id', Owns rows t requestId id → Owns rows t requestId id' → id = id'
  seen : ∀ t requestId id, Sees rows t requestId id →
    Owns rows t requestId id ∨ Holds rows requestId id

variable {s : BudgetRows} {statement : BudgetStatement} {rows : ReservationCells}
  {t : TransactionNo} {requestId : RequestId} {id : ReservationId}

/-- While no transaction ends, what a request holds it held before. -/
lemma Rewrites.holds (h : s.Rewrites statement rows) (hends : s.ends statement = none)
    (hholds : Holds rows requestId id) : Holds s.reservations requestId id := by
  obtain ⟨c, hc, hlive⟩ := hholds
  cases h with
  | kept => exact ⟨c, hc, hlive⟩
  | locks | settles =>
    obtain ⟨c₀, hc₀, ⟨-, rfl⟩ | ⟨-, rfl⟩⟩ := getElem?_of_modify hc
    · exact ⟨c₀, hc₀, hlive⟩
    · exact ⟨c, hc₀, hlive⟩
  | inserts =>
    rcases getElem?_of_concat hc with hc | ⟨-, rfl⟩
    · exact ⟨c, hc, hlive⟩
    · exact (not_liveRow_none hlive).elim
  | commits hsome => cases hends.symm.trans hsome
  | rollsBack =>
    obtain ⟨c₀, hc₀, rfl⟩ := getElem?_of_map hc
    rw [Cell.committed_rollback] at hlive
    exact ⟨c₀, hc₀, hlive⟩

/-- What a transaction comes to own is the answer of its call. -/
lemma Rewrites.owns (h : s.Rewrites statement rows) (howns : Owns rows t requestId id) :
    Owns s.reservations t requestId id ∨
      id = s.reservations.length ∧
        ∃ answer, s.answered statement = some (t, requestId, answer) := by
  obtain ⟨c, hc, hnone, hlive⟩ := howns
  cases h with
  | kept => exact .inl ⟨c, hc, hnone, hlive⟩
  | locks hc₀ hfree =>
    obtain ⟨c₁, hc₁, ⟨rfl, rfl⟩ | ⟨-, rfl⟩⟩ := getElem?_of_modify hc
    · obtain rfl := Option.some.inj (hc₀.symm.trans hc₁)
      rw [Cell.read_lock hfree] at hlive
      exact .inl ⟨_, hc₁, hnone, hlive⟩
    · exact .inl ⟨c, hc₁, hnone, hlive⟩
  | @settles u i r hstatus =>
    obtain ⟨c₁, hc₁, ⟨-, rfl⟩ | ⟨-, rfl⟩⟩ := getElem?_of_modify hc
    · by_cases htu : t = u
      · subst htu
        rw [Cell.read_write_self] at hlive
        exact absurd hlive.status.2 hstatus
      · rw [Cell.read_write_of_ne htu] at hlive
        exact (not_liveRow_none (hnone ▸ hlive)).elim
    · exact .inl ⟨c, hc₁, hnone, hlive⟩
  | @inserts u r hanswered =>
    rcases getElem?_of_concat hc with hc | ⟨hid, rfl⟩
    · exact .inl ⟨c, hc, hnone, hlive⟩
    · by_cases htu : u = t
      · subst htu
        have hrow : (⟨none, some (u, some r)⟩ : Cell TransactionNo _).read u = some r := if_pos rfl
        rw [hrow] at hlive
        exact .inr ⟨hid, _, hlive.status.1 ▸ hanswered⟩
      · have hrow : (⟨none, some (u, some r)⟩ : Cell TransactionNo _).read t = none := if_neg htu
        rw [hrow] at hlive
        exact (not_liveRow_none hlive).elim
  | @commits u =>
    obtain ⟨c₀, hc₀, rfl⟩ := getElem?_of_map hc
    rw [Cell.committed_commit] at hnone
    rcases c₀.read_commit u t with ⟨hread, hcommitted⟩ | hread
    · rw [hread] at hlive
      exact .inl ⟨c₀, hc₀, hcommitted.symm.trans ((c₀.committed_commit u).trans hnone), hlive⟩
    · rw [hread, hnone] at hlive
      exact (not_liveRow_none hlive).elim
  | @rollsBack u =>
    obtain ⟨c₀, hc₀, rfl⟩ := getElem?_of_map hc
    rw [Cell.committed_rollback] at hnone
    rcases c₀.read_rollback u t with hread | hread
    · exact .inl ⟨c₀, hc₀, hnone, hread ▸ hlive⟩
    · rw [hread, hnone] at hlive
      exact (not_liveRow_none hlive).elim

/-- What a transaction sees is committed or its own. -/
lemma Rewrites.sees (h : s.Rewrites statement rows)
    (hseen : ∀ t requestId id, Sees s.reservations t requestId id →
      Owns s.reservations t requestId id ∨ Holds s.reservations requestId id)
    (hsees : Sees rows t requestId id) : Owns rows t requestId id ∨ Holds rows requestId id := by
  obtain ⟨c, hc, hlive⟩ := hsees
  -- a cell that was there and is read as it was
  have hsame : ∀ c₀, s.reservations[id]? = some c₀ → c₀.read t = c.read t →
      c₀.committed = c.committed → Owns rows t requestId id ∨ Holds rows requestId id := by
    intro c₀ hc₀ hread hcommitted
    rcases hseen t requestId id ⟨c₀, hc₀, hread ▸ hlive⟩ with
      ⟨c₁, hc₁, hnone, -⟩ | ⟨c₁, hc₁, hheld⟩
    · obtain rfl := Option.some.inj (hc₀.symm.trans hc₁)
      exact .inl ⟨c, hc, hcommitted ▸ hnone, hlive⟩
    · obtain rfl := Option.some.inj (hc₀.symm.trans hc₁)
      exact .inr ⟨c, hc, hcommitted ▸ hheld⟩
  cases h with
  | kept => exact hsame c hc rfl rfl
  | locks hc₀ hfree =>
    obtain ⟨c₁, hc₁, ⟨rfl, rfl⟩ | ⟨-, rfl⟩⟩ := getElem?_of_modify hc
    · obtain rfl := Option.some.inj (hc₀.symm.trans hc₁)
      exact hsame _ hc₁ (Cell.read_lock hfree t).symm rfl
    · exact hsame c hc₁ rfl rfl
  | @settles u i r hstatus =>
    obtain ⟨c₁, hc₁, ⟨-, rfl⟩ | ⟨-, rfl⟩⟩ := getElem?_of_modify hc
    · by_cases htu : t = u
      · subst htu
        rw [Cell.read_write_self] at hlive
        exact absurd hlive.status.2 hstatus
      · rw [Cell.read_write_of_ne htu] at hlive
        exact .inr ⟨_, hc, hlive⟩
    · exact hsame c hc₁ rfl rfl
  | inserts =>
    rcases getElem?_of_concat hc with hc | ⟨-, rfl⟩
    · exact hsame c hc rfl rfl
    · exact .inl ⟨_, hc, rfl, hlive⟩
  | @commits u =>
    obtain ⟨c₀, hc₀, rfl⟩ := getElem?_of_map hc
    rcases c₀.read_commit u t with ⟨hread, hcommitted⟩ | hread
    · exact hsame c₀ hc₀ hread.symm hcommitted.symm
    · rw [hread, ← Cell.committed_commit] at hlive
      exact .inr ⟨_, hc, hlive⟩
  | @rollsBack u =>
    obtain ⟨c₀, hc₀, rfl⟩ := getElem?_of_map hc
    rcases c₀.read_rollback u t with hread | hread
    · exact hsame c₀ hc₀ hread.symm (c₀.committed_rollback u).symm
    · rw [hread, ← c₀.committed_rollback u] at hlive
      exact .inr ⟨_, hc, hlive⟩

/-- When a transaction ends, a request holds what the transaction saw. -/
lemma holds_of_ends (hends : s.ends statement = some t) :
    Holds (s.step statement).reservations requestId id ↔ Sees s.reservations t requestId id := by
  cases statement with
  | commit u =>
    have hidle : s.calls u = .idle := by
      by_contra hidle
      cases (if_neg hidle).symm.trans hends
    obtain rfl := Option.some.inj ((if_pos hidle).symm.trans hends)
    simp only [step, if_pos hidle, Holds, Sees, List.getElem?_map]
    constructor
    · rintro ⟨c, hc, hlive⟩
      obtain ⟨c₀, hc₀, rfl⟩ := Option.map_eq_some_iff.mp hc
      exact ⟨c₀, hc₀, (c₀.committed_commit u) ▸ hlive⟩
    · rintro ⟨c, hc, hlive⟩
      exact ⟨c.commit u, Option.map_eq_some_iff.mpr ⟨c, hc, rfl⟩,
        (c.committed_commit u).symm ▸ hlive⟩
  | _ => cases hends

/-! ### Steps and runs -/

/-- A first call that returns leaves the rows single as long as no request holds two. -/
lemma Single.step (h : Single s.reservations) (hfirst : s.First statement)
    (hunique : ∀ requestId id id', Holds (s.step statement).reservations requestId id →
      Holds (s.step statement).reservations requestId id' → id = id') :
    Single (s.step statement).reservations := by
  have hrows := s.step_rewrites statement
  generalize (s.step statement).reservations = rows at hrows hunique ⊢
  refine ⟨hunique, fun t requestId id id' howns howns' => ?_,
    fun t requestId id => hrows.sees h.seen⟩
  -- what the call has answered for, its transaction does not own yet
  have hnot : ∀ answer, s.answered statement = some (t, requestId, answer) → ∀ i,
      ¬ Owns s.reservations t requestId i := by
    rintro answer hanswered i ⟨c, hc, -, hlive⟩
    exact hfirst.unseen _ hanswered c (List.mem_of_getElem? hc) hlive
  rcases hrows.owns howns with hold | ⟨hid, answer, hanswered⟩
  · rcases hrows.owns howns' with hold' | ⟨-, answer, hanswered⟩
    · exact h.own t requestId id id' hold hold'
    · exact absurd hold (hnot answer hanswered id)
  · rcases hrows.owns howns' with hold' | ⟨hid', -⟩
    · exact absurd hold' (hnot answer hanswered id')
    · exact hid.trans hid'.symm

/-- What a transaction sees when it ends is one reservation of a request, unless it has been
overtaken. -/
lemma Single.sees_unique (h : Single s.reservations) (halone : ¬ s.Overtaken t)
    {id' : ReservationId} (hsees : Sees s.reservations t requestId id)
    (hsees' : Sees s.reservations t requestId id') : id = id' := by
  have hovertaken : ∀ {i j}, Owns s.reservations t requestId i → Holds s.reservations requestId j →
      Sees s.reservations t requestId j → False := by
    rintro i j ⟨c, hc, hnone, r, hr, rfl, hstatus⟩ ⟨c₁, hc₁, hheld⟩ ⟨c₂, hc₂, hlive⟩
    obtain rfl := Option.some.inj (hc₁.symm.trans hc₂)
    refine halone ⟨c, List.mem_of_getElem? hc, hnone, r, hr, hstatus, c₁, List.mem_of_getElem? hc₁,
      fun hnone => ?_, hlive⟩
    rw [hnone] at hheld
    exact not_liveRow_none hheld
  rcases h.seen t requestId id hsees with hown | hheld
  · rcases h.seen t requestId id' hsees' with hown' | hheld'
    · exact h.own t requestId id id' hown hown'
    · exact (hovertaken hown hheld' hsees').elim
  · rcases h.seen t requestId id' hsees' with hown' | hheld'
    · exact (hovertaken hown' hheld hsees).elim
    · exact h.held requestId id id' hheld hheld'

/-- A statement keeps the promise exactly when it is no repeat and its transaction is not
overtaken. -/
lemma Single.idempotent_iff (h : Single s.reservations) (statement : BudgetStatement) :
    s.Idempotent statement ↔ s.First statement := by
  constructor
  · intro hidempotent
    constructor
    · -- a repeat is never answered with the row that is there
      rintro ⟨t, requestId, answer⟩ hanswered c hc hlive
      obtain ⟨id, hid⟩ := List.getElem?_of_mem hc
      obtain ⟨rfl, -⟩ := hidempotent.repeated t requestId answer hanswered id ⟨c, hid, hlive⟩
      have hlt := (List.getElem?_eq_some_iff.mp hid).1
      exact absurd (answered_new hanswered) hlt.ne
    · -- what was inserted and what overtook it are both committed
      rintro t hends ⟨c, hc, hnone, r, hr, hstatus, c', hc', hsome, hlive⟩
      obtain ⟨id, hid⟩ := List.getElem?_of_mem hc
      obtain ⟨id', hid'⟩ := List.getElem?_of_mem hc'
      obtain rfl := hidempotent.unique r.paymentRequestId id id'
        ((holds_of_ends hends).mpr ⟨c, hid, r, hr, rfl, hstatus⟩)
        ((holds_of_ends hends).mpr ⟨c', hid', hlive⟩)
      obtain rfl := Option.some.inj (hid.symm.trans hid')
      exact hsome hnone
  · intro hfirst
    constructor
    · rintro t requestId answer hanswered id ⟨c, hc, hlive⟩
      exact absurd hlive (hfirst.unseen _ hanswered c (List.mem_of_getElem? hc))
    · intro requestId id id' hholds hholds'
      have hrows := s.step_rewrites statement
      rcases hends : s.ends statement with - | t
      · -- no transaction ends: what is held was held
        exact h.held requestId id id' (hrows.holds hends hholds) (hrows.holds hends hholds')
      · exact h.sees_unique (hfirst.alone t hends) ((holds_of_ends hends).mp hholds)
          ((holds_of_ends hends).mp hholds')

/-- No request has two RESERVED reservations. -/
def OneLive (reservations : List BudgetReservation) : Prop :=
  reservations.Pairwise fun r r' =>
    r.status = .reserved → r'.status = .reserved → r.paymentRequestId ≠ r'.paymentRequestId

lemma OneLive.single {reservations : List BudgetReservation} (h : OneLive reservations)
    (budgets : List Budget) : Single (start budgets reservations).reservations where
  held requestId id id' hholds hholds' := by
    obtain ⟨c, hc, hlive⟩ := hholds
    obtain ⟨c', hc', hlive'⟩ := hholds'
    obtain ⟨r, hr, rfl⟩ := getElem?_of_map hc
    obtain ⟨r', hr', rfl⟩ := getElem?_of_map hc'
    obtain ⟨hlt, rfl⟩ := List.getElem?_eq_some_iff.mp hr
    obtain ⟨hlt', rfl⟩ := List.getElem?_eq_some_iff.mp hr'
    obtain ⟨hrequest, hstatus⟩ := hlive.status
    obtain ⟨hrequest', hstatus'⟩ := hlive'.status
    have hpairs := List.pairwise_iff_getElem.mp h
    rcases lt_trichotomy id id' with hid | hid | hid
    · exact absurd (hrequest.trans hrequest'.symm) (hpairs _ _ hlt hlt' hid hstatus hstatus')
    · exact hid
    · exact absurd (hrequest'.trans hrequest.symm) (hpairs _ _ hlt' hlt hid hstatus' hstatus)
  own t requestId id id' howns _ := by
    obtain ⟨c, hc, hnone, -⟩ := howns
    obtain ⟨r, -, rfl⟩ := getElem?_of_map hc
    cases hnone
  seen t requestId id hsees := by
    obtain ⟨c, hc, hlive⟩ := hsees
    obtain ⟨r, -, rfl⟩ := getElem?_of_map hc
    exact .inr ⟨_, hc, hlive⟩

/-- Whatever transactions call `reserve`, `consume` and `release`, on whatever budgets, and however
their statements interleave: from books on which no request holds two reservations, every call for a
request that holds one is answered with it and changes nothing, and no request ever holds two,
exactly when no call is answered for a request that holds a reservation, and no transaction commits
one after another transaction has committed one of the same request. -/
theorem run_idempotent_iff (budgets : List Budget) {reservations : List BudgetReservation}
    (h : OneLive reservations) (schedule : List BudgetStatement) :
    Machine.Along step Idempotent (start budgets reservations) schedule ↔
      Machine.Along step First (start budgets reservations) schedule := by
  apply Machine.Along.congr (P := fun _ _ => True) (I := fun s => Single s.reservations) ?_ ?_
    (h.single budgets) (Machine.along_of_forall (fun _ _ => trivial) _ _)
  · intro s statement hs _ hidempotent
    exact hs.step ((hs.idempotent_iff statement).mp hidempotent) hidempotent.unique
  · intro s statement hs _
    exact hs.idempotent_iff statement

/-! ### A request on two budgets -/

/-- Two budgets of 100 USD. -/
def twoBudgets : List Budget :=
  [⟨"acct", none, "USD", 1000000, 0, 0, true, none, none⟩,
    ⟨"acct", none, "USD", 1000000, 0, 0, true, none, none⟩]

/-- A call of `reserve` for 25 USD on a budget, for the first request. -/
def reserve25 (t : TransactionNo) (budgetId : BudgetId) : BudgetStatement :=
  .reserve t budgetId 0 "USD" ⟨25, 0⟩

/-- Two calls overlap, and the first is rolled back; the second is then released, and the request
reserves on the first budget. -/
theorem run_idempotent_iff_released :
    Machine.Along step Idempotent (start twoBudgets [])
      [reserve25 0 0, reserve25 1 1, .insert 0, .insert 1, .rollback 0, .addReserved 1, .commit 1,
        .settle 2 1 .release, .mark 2, .move 2, .commit 2, reserve25 3 0, .insert 3, .addReserved 3,
        .commit 3] :=
  (run_idempotent_iff twoBudgets .nil _).mpr (by decide +kernel)

/-- A repeat on the same budget raises; one on another budget reserves the amount a second time; and
so do two calls on two budgets that overlap. -/
theorem not_run_idempotent_twice :
    let first := [reserve25 0 0, .insert 0, .addReserved 0, .commit 0]
    let again (budgetId : BudgetId) := [reserve25 1 budgetId, .insert 1, .addReserved 1, .commit 1]
    let overlapping := [reserve25 0 0, reserve25 1 1, .insert 0, .insert 1, .addReserved 0,
      .addReserved 1, .commit 0, .commit 1]
    let s := start twoBudgets []
    (Machine.run step s (first ++ again 0)).calls 1 = .aborted ∧
    (Machine.run step s (first ++ again 1)).committedBudgets.map (·.reservedAmount) =
      [250000, 250000] ∧
    ¬ Machine.Along step Idempotent s (first ++ again 0) ∧
    ¬ Machine.Along step Idempotent s (first ++ again 1) ∧
    ¬ Machine.Along step Idempotent s overlapping := by
  intro first again overlapping s
  refine ⟨by decide +kernel, by decide +kernel, ?_, ?_, ?_⟩
  · intro h
    obtain ⟨-, -, hinsert, -⟩ := Machine.along_append.mp h
    have hsees : Sees ((Machine.run step s first).step (reserve25 1 0)).reservations 1 0 0 := by
      unfold Sees
      decide +kernel
    have hanswered : ((Machine.run step s first).step (reserve25 1 0)).answered (.insert 1) =
        some (1, 0, none) := by decide +kernel
    cases (hinsert.repeated 1 0 none hanswered 0 hsees).1
  · intro h
    obtain ⟨-, -, -, -, hcommit, -⟩ := Machine.along_append.mp h
    exact absurd (hcommit.unique 0 0 1 (by decide +kernel) (by decide +kernel)) (by decide)
  · rintro ⟨-, -, -, -, -, -, -, hcommit, -⟩
    exact absurd (hcommit.unique 0 0 1 (by decide +kernel) (by decide +kernel)) (by decide)

end BudgetRows

end AgentPay
