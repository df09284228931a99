import AgentPay.WorkerRunner
import AgentPay.WebhookRecovery
import AgentPay.Refunds

/-!
# The worker gets through its queue

From any state the system can reach, a run of `run_once` executes the payments it claims, the oldest
first, when the accounts of the payments that wait are configured and the provider answers. So the
queue is gone after as many runs as it has batches, and each payment in it is decided.
-/

namespace AgentPay

open Support

namespace Worker

variable {provider : Provider} {db db' : Db} {p : PaymentId} {accounts : LedgerAccounts}
  {claim : Claim} {locked : List PaymentId}

/-- The clearing accounts refer to ledger accounts. -/
def ClearingKnown (db : Db) : Prop :=
  ∀ a ∈ db.paymentProviderAccounts, a.ledgerAccountId < db.ledgerAccounts.length

/-- What the worker needs to execute a payment: the two ledger accounts, and a currency without
white space around it. -/
structure Configured (db : Db) (p : PaymentId) : Prop where
  accounts : ∃ accounts, accountsFor db p = .ok accounts
  currency : ∀ payment, db.payments.get? p = some payment →
    normCurrency payment.currency = upper payment.currency

/-! ### One payment -/

lemma accountsFor_known (hclearing : ClearingKnown db) (h : accountsFor db p = .ok accounts) :
    accounts.Known db := by
  obtain ⟨currency, -, h⟩ := Except.bind_eq_ok.mp h
  split at h
  · cases h
  rename_i joined hjoined
  obtain rfl := Except.ok.inj h
  obtain ⟨payment, request, -, -, hcustomer, hfound⟩ := accountsIn_eq_some.mp hjoined
  obtain ⟨a, ha, heq⟩ := mem_of_clearingAccount hfound
  exact ⟨customerAccount_lt hcustomer, heq ▸ hclearing a ha⟩

/-- Finalizing a payment that waits goes through. -/
lemma finalize_ok (hagree : db.BudgetsAgree) {payment : Payment}
    (hrow : db.payments.get? claim.paymentId = some payment)
    (hstatus : payment.status = .processing)
    (hrequest : payment.paymentRequestId = claim.requestId)
    (hamount : payment.amount = claim.amount) (hcurrency : payment.currency = claim.currency)
    (hplain : normCurrency payment.currency = upper payment.currency)
    {row : BudgetReservation}
    (hreservation : db.budgetReservations.get? claim.reservationId = some row)
    (hknown : claim.accounts.Known db) (answer : ProviderAnswer) :
    ∃ db', finalize db claim answer = .ok (answer.outcome.paymentStatus, db') ∧
      (db'.payments.get? claim.paymentId).map (·.status) = some answer.outcome.paymentStatus := by
  have hexec : PaymentStatus.processing.Executable := .inl rfl
  have hbinds : ¬ (payment.amount.toDecimal.units ≠ claim.amount.toDecimal.units ∨
      normCurrency payment.currency ≠ upper claim.currency) := by
    rw [hplain, hamount, hcurrency]
    simp
  have hdecided : ∀ (db₁ : Db) (status : PaymentStatus) (reference : Option String)
      (event : OutboxEvent), db₁.payments = db.payments →
        ((enqueue (PaymentRepository.updateStatus db₁ claim.paymentId status reference)
          event).payments.get? claim.paymentId).map (·.status) = some status := by
    intro db₁ status reference event hsame
    show ((PaymentRepository.updateStatus db₁ claim.paymentId status reference).payments.get?
      claim.paymentId).map (·.status) = some status
    rw [get?_updateStatus, hsame, hrow]
    rfl
  have hrun : finalize db claim answer =
      (branch db claim answer).map fun db => (answer.outcome.paymentStatus, db) := by
    simp only [finalize, PaymentOrchestrator.finalize, hrow, hrequest, ne_eq, not_true, if_false,
      if_neg hbinds, hstatus, hexec, reduceCtorEq, false_and, branch]
    cases answer.outcome with
    | unknown => rfl
    | failed =>
      cases PaymentOrchestrator.finalizeFailed db claim.paymentId claim.reservationId
        answer.reference <;> rfl
    | succeeded =>
      cases PaymentOrchestrator.finalizeSucceeded db claim.paymentId claim.reservationId
        claim.amount.toDecimal claim.currency claim.accounts answer.reference <;> rfl
  rw [hrun]
  cases houtcome : answer.outcome with
  | unknown =>
    rw [branch, houtcome]
    exact ⟨_, rfl, hdecided _ _ _ _ rfl⟩
  | failed =>
    set charged := PaymentOrchestrator.updateCharges db claim.paymentId
      (PaymentOrchestrator.decided .failed answer.reference) fun _ => rfl
    obtain ⟨reservations, budgets, hrelease⟩ :=
      settle_of_agree (show charged.BudgetsAgree from hagree) hreservation .release
    have hbranch : branch db claim answer = .ok (enqueue (PaymentRepository.updateStatus
        { charged with budgetReservations := reservations, budgets } claim.paymentId .failed
          answer.reference) (.paymentFailed claim.paymentId (.provider claim.reservationId))) := by
      rw [branch, houtcome]
      exact Except.bind_eq_ok.mpr ⟨_, hrelease, rfl⟩
    rw [hbranch]
    exact ⟨_, rfl, hdecided _ _ _ _ rfl⟩
  | succeeded =>
    set charged := PaymentOrchestrator.updateCharges db claim.paymentId
      (PaymentOrchestrator.decided .succeeded answer.reference) fun _ => rfl
    obtain ⟨reservations, budgets, hconsume⟩ :=
      settle_of_agree (show charged.BudgetsAgree from hagree) hreservation .consume
    obtain ⟨id, transactions, -, hupsert, -⟩ := upsertCapture_posts
      { charged with budgetReservations := reservations, budgets } claim.paymentId claim.amount
      claim.currency
    obtain ⟨journalId, journals, hpost, -⟩ := postJournal_posts
      { charged with budgetReservations := reservations, budgets, transactions } hknown claim.amount
      claim.currency (.transaction id) (.capture claim.paymentId)
    have hbranch : branch db claim answer = .ok (enqueue (PaymentRepository.updateStatus
        { charged with
          budgetReservations := reservations, budgets, transactions, ledgerJournals := journals }
        claim.paymentId .succeeded answer.reference)
          (.paymentSucceeded claim.paymentId claim.amount.toDecimal claim.currency)) := by
      rw [branch, houtcome]
      exact Except.bind_eq_ok.mpr ⟨_, hconsume, Except.bind_eq_ok.mpr ⟨_, hupsert,
        Except.bind_eq_ok.mpr ⟨_, hpost, rfl⟩⟩⟩
    rw [hbranch]
    exact ⟨_, rfl, hdecided _ _ _ _ rfl⟩

/-- Taking up a payment that waits goes through. -/
lemma mark_ok (hs : db.Sound) {payment : Payment} (hp : db.payments.get? p = some payment)
    {request : PaymentRequest}
    (hr : db.paymentRequests.get? payment.paymentRequestId = some request)
    {reservationId : ReservationId} (hlink : request.budgetReservationId = some reservationId)
    (accounts : LedgerAccounts) : ∃ claim taken, mark db p accounts = .ok (claim, taken) := by
  obtain ⟨operationId, db₁, hcreate, -⟩ := Refund.createProviderOperation_ok hs (.charge p)
  simp only [mark, hp, hr, hlink]
  exact ⟨_, _, Except.bind_eq_ok.mpr ⟨_, hcreate, rfl⟩⟩

/-- A pass over a payment that waits decides it. -/
lemma serve_decides (hs : db.Sound) (hagree : db.BudgetsAgree) (hclearing : ClearingKnown db)
    (hp : Claimable db locked p) (hconfigured : Configured db p)
    (hprovider : ∀ call, ∃ answer, provider call = .ok answer) :
    ∃ (outcome : ProviderOutcome) (db' : Db),
      serve provider db p = (.ok outcome.paymentStatus, db') ∧ db'.Sound ∧ db'.BudgetsAgree ∧
        (db'.payments.get? p).map (·.status) = some outcome.paymentStatus := by
  obtain ⟨-, -, terms, request, hterms, hr, hlinked⟩ := hp
  obtain ⟨payment, hpayment, rfl⟩ := Option.map_eq_some_iff.mp hterms
  obtain ⟨reservationId, hlink⟩ := Option.isSome_iff_exists.mp hlinked
  obtain ⟨accounts, haccounts⟩ := hconfigured.accounts
  obtain ⟨claim, taken, hmark⟩ := mark_ok hs hpayment hr hlink accounts
  obtain ⟨⟨_, heffect, -⟩, hid, hvalid⟩ := mark_moves hs hmark
  have hagree' : taken.BudgetsAgree := (mark_executes hmark).agree hagree
  obtain ⟨payment', request', reservationId', operationId, operations, hp', hr', hlink', -, hclaim,
    htaken⟩ := mark_eq_ok hmark
  obtain rfl := Option.some.inj (hpayment.symm.trans hp')
  have hrow : taken.payments.get? claim.paymentId = some (PaymentRepository.withStatus .processing
      none { payment with providerOperationId := some operationId }) := by
    rw [hid, htaken]
    exact get?_taken hpayment operations operationId
  obtain ⟨reservation, hreservation, -⟩ := heffect.sound.reservation payment.paymentRequestId
    request' reservationId' (by rw [htaken]; exact hr') hlink'
  have haccountsKnown := accountsFor_known hclearing haccounts
  have hknown : claim.accounts.Known taken := by
    rw [hclaim, htaken]
    exact haccountsKnown
  obtain ⟨answer, hanswer⟩ : ∃ answer, answerFor provider taken claim = .ok answer := by
    rw [answerFor]
    cases durable taken claim.paymentId with
    | none => exact hprovider claim.charge
    | some answer => exact ⟨answer, rfl⟩
  have hplain := hconfigured.currency payment hpayment
  obtain ⟨db', hfinalize, hstatus⟩ := finalize_ok hagree' hrow rfl (by rw [hclaim]; rfl)
    (by rw [hclaim]; rfl) (by rw [hclaim]; rfl) hplain (by rw [hclaim]; exact hreservation) hknown
    answer
  obtain ⟨_, hfinal, -⟩ := finalize_moves heffect.sound hvalid hfinalize
  refine ⟨answer.outcome, db', ?_, hfinal.sound, ?_, by rwa [hid] at hstatus⟩
  · simp only [serve, haccounts, processCommitted, hmark, hanswer, hfinalize]
  · rcases PaymentOrchestrator.finalize_executes hfinalize with rfl | hexecutes
    · exact hagree'
    · exact hexecutes.agree hagree'

/-! ### The queue -/

lemma Configured.keeps (h : Configured db p) (hkeeps : Keeps db db') : Configured db' p := by
  refine ⟨by rw [hkeeps.accountsFor]; exact h.accounts, fun payment hpayment => ?_⟩
  have hterms := hkeeps.terms p
  rw [hpayment, Option.map_some, eq_comm, Option.map_eq_some_iff] at hterms
  obtain ⟨payment₀, hpayment₀, hterms⟩ := hterms
  have hcurrency : payment₀.currency = payment.currency := congrArg (fun t => t.2.2) hterms
  rw [← hcurrency]
  exact h.currency payment₀ hpayment₀

/-- Where the worker has got to: what was claimable is claimable still and untouched, or decided. -/
structure Progressed (locked : List PaymentId) (db₀ db : Db) : Prop where
  sound : db.Sound
  agree : db.BudgetsAgree
  keeps : Keeps db₀ db
  claimed : ∀ q, Claimable db locked q → Claimable db₀ locked q
  decided : ∀ q, Claimable db₀ locked q → Claimable db locked q ∨
    ∃ outcome : ProviderOutcome, (db.payments.get? q).map (·.status) = some outcome.paymentStatus
  untouched : ∀ q, (Claimable db₀ locked q → Claimable db locked q) →
    db.payments.get? q = db₀.payments.get? q

/-- A payment is claimable as long as its row, the requests and the locks stay as they are. -/
lemma claimable_congr (hrow : db'.payments.get? p = db.payments.get? p)
    (hrequests : db'.paymentRequests = db.paymentRequests) :
    Claimable db' locked p ↔ Claimable db locked p := by
  rw [Claimable, Claimable, Waits, Waits, hrow, hrequests]

/-- The worker serves what is configured. -/
lemma serves_progressed {db₀ : Db} (hclearing : ClearingKnown db₀)
    (hconfigured : ∀ p, Claimable db₀ locked p → Configured db₀ p)
    (hprovider : ∀ call, ∃ answer, provider call = .ok answer) :
    Drains (serve provider) (Progressed locked db₀) (Claimable · locked) := by
  refine ⟨fun db p hdb hp => ?_⟩
  have hclearing' : ClearingKnown db := by
    rw [ClearingKnown, hdb.keeps.providerAccounts, hdb.keeps.ledgerAccounts]
    exact hclearing
  obtain ⟨outcome, db', hserve, hsound, hagree, hstatus⟩ := serve_decides hdb.sound hdb.agree
    hclearing' hp ((hconfigured p (hdb.claimed p hp)).keeps hdb.keeps) hprovider
  have hserves := serve_serves provider db p
  rw [hserve] at hserves ⊢
  have hdone : ¬ Claimable db' locked p := by
    rintro ⟨hwaits, -⟩
    rw [Waits, hstatus] at hwaits
    cases outcome <;> cases hwaits
  have hothers : ∀ q, q ≠ p → (Claimable db' locked q ↔ Claimable db locked q) := fun q hq =>
    claimable_congr (hserves.others q hq) hserves.requests
  refine ⟨not_raises_iff.mpr ⟨_, _, rfl⟩,
    ⟨hsound, hagree, hdb.keeps.trans hserves.toKeeps, ?_, ?_, ?_⟩, fun q => ?_⟩
  · intro q hq
    have hne : q ≠ p := fun heq => hdone (heq ▸ hq)
    exact hdb.claimed q ((hothers q hne).mp hq)
  · intro q hq
    by_cases hne : q = p
    · rw [hne]
      exact .inr ⟨outcome, hstatus⟩
    · rw [hothers q hne, hserves.others q hne]
      exact hdb.decided q hq
  · intro q hq
    by_cases hne : q = p
    · rw [hne] at hq
      exact absurd (hq (hdb.claimed p hp)) hdone
    · rw [hserves.others q hne]
      exact hdb.untouched q fun hq₀ => (hothers q hne).mp (hq hq₀)
  · by_cases hne : q = p
    · rw [hne]
      exact iff_of_false hdone fun h => h.2 rfl
    · rw [hothers q hne]
      exact (and_iff_left hne).symm

/-- Everything `pending_for_execution` could hand out, the oldest first. -/
def queue (db : Db) (locked : List PaymentId) : List PaymentId :=
  pendingForExecution db locked db.payments.nextId

lemma queue_eq (db : Db) (locked : List PaymentId) :
    queue db locked = Support.queue (Claimable · locked) (List.range db.payments.nextId) db := by
  rw [queue, pendingForExecution_eq, Support.queue]
  apply List.take_of_length_le
  exact (List.length_filter_le _ _).trans (List.length_range).le

lemma pendingForExecution_eq_take (db : Db) (locked : List PaymentId) (limit : ℕ) :
    pendingForExecution db locked limit = (queue db locked).take limit := by
  rw [queue_eq, pendingForExecution_eq, Support.queue]

end Worker

/-- From any reachable state, `k` runs of the worker execute the first `k * limit` payments of the
queue, in its order, and no other: each of them ends in the status of an outcome, the rest of the
queue and every other payment row are as they were, and the next run claims what is left. -/
theorem afterRuns_queue {env : Env} {s : State} (hs : s.Reachable env) (provider : Provider)
    (locked : List PaymentId) (hclearing : Worker.ClearingKnown s.db)
    (hconfigured : ∀ p ∈ Worker.queue s.db locked, Worker.Configured s.db p)
    (hprovider : ∀ call, ∃ answer, provider call = .ok answer) (limit k : ℕ) :
    let db := afterRuns provider locked limit k s.db
    let served := (Worker.queue s.db locked).take (k * limit)
    Worker.queue db locked = (Worker.queue s.db locked).drop (k * limit) ∧
      (runOnce provider locked limit db).1 =
        .ok (min limit ((Worker.queue s.db locked).length - k * limit)) ∧
      (∀ p ∈ served, ∃ outcome : ProviderOutcome,
        (db.payments.get? p).map (·.status) = some outcome.paymentStatus) ∧
      ∀ p, p ∉ served → db.payments.get? p = s.db.payments.get? p := by
  intro db served
  have hmem : ∀ p, p ∈ Worker.queue s.db locked ↔ Worker.Claimable s.db locked p := by
    intro p
    rw [Worker.queue_eq, mem_queue, List.mem_range, and_iff_right_iff_imp]
    rintro ⟨-, -, terms, -, hterms, -⟩
    obtain ⟨payment, hpayment, -⟩ := Option.map_eq_some_iff.mp hterms
    exact Table.get?_lt hpayment
  have hserves := Worker.serves_progressed hclearing
    (fun p hp => hconfigured p ((hmem p).mpr hp)) hprovider
  have hstart : Worker.Progressed locked s.db s.db :=
    ⟨hs.invariant.sound, hs.budgetsAgree, .refl s.db, fun _ => id, fun _ => .inl, fun _ _ => rfl⟩
  have hqueue : ∀ db, Worker.Progressed locked s.db db → Worker.queue db locked =
      Support.queue (Worker.Claimable · locked) (List.range s.db.payments.nextId) db := by
    intro db hdb
    rw [Worker.queue_eq, hdb.keeps.count]
  have hrun : ∀ db, Worker.Progressed locked s.db db → runOnce provider locked limit db =
      batch (Worker.serve provider) db ((Support.queue (Worker.Claimable · locked)
        (List.range s.db.payments.nextId) db).take limit) := by
    intro db hdb
    rw [runOnce, Worker.pendingForExecution_eq_take, hqueue db hdb]
  obtain ⟨hdb, hleft⟩ := hserves.rounds hstart List.nodup_range
    (fun db hdb => congrArg Prod.snd (hrun db hdb)) k
  rw [← hqueue _ hdb, ← hqueue _ hstart] at hleft
  have hnext := (hserves.round hdb (List.nodup_range (n := s.db.payments.nextId)) limit).1
  rw [← hrun _ hdb, ← hqueue _ hdb, hleft, List.length_drop] at hnext
  -- a payment is claimable afterwards exactly when it was and has not been served
  have hclaimable : ∀ p, Worker.Claimable s.db locked p →
      (Worker.Claimable db locked p ↔ p ∉ served) := by
    intro p hp
    have hnodup := Worker.nodup_pendingForExecution s.db locked s.db.payments.nextId
    rw [← List.take_append_drop (k * limit) (Worker.pendingForExecution ..)] at hnodup
    have hlt : p ∈ List.range s.db.payments.nextId :=
      ((mem_queue.mp (hqueue _ hstart ▸ (hmem p).mpr hp))).1
    have hin : Worker.Claimable db locked p ↔ p ∈ (Worker.queue s.db locked).drop (k * limit) := by
      rw [← hleft, hqueue _ hdb, mem_queue, and_iff_right hlt]
      rfl
    rw [hin]
    refine ⟨fun hdrop htake => (List.nodup_append.mp hnodup).2.2 p htake p hdrop rfl,
      fun hnot => ?_⟩
    have hall := (hmem p).mpr hp
    rw [← List.take_append_drop (k * limit) (Worker.queue s.db locked)] at hall
    exact (List.mem_append.mp hall).resolve_left hnot
  refine ⟨hleft, hnext, fun p hp => ?_, fun p hp => ?_⟩
  · have hp₀ := (hmem p).mp (List.mem_of_mem_take hp)
    exact (hdb.decided p hp₀).resolve_left fun h => (hclaimable p hp₀).mp h hp
  · exact hdb.untouched p fun hp₀ => (hclaimable p hp₀).mpr hp

/-- One payment waits, and one run executes it. -/
theorem afterRuns_queue_seeded :
    let start := Db.seeded .processing (some .reserved)
    let db := afterRuns .mock [] 25 1 start
    Worker.queue start [] = [0] ∧ Worker.queue db [] = [] ∧ ∃ outcome : ProviderOutcome,
      (db.payments.get? 0).map (·.status) = some outcome.paymentStatus := by
  intro start db
  have hs : (State.start start).Reachable .bare :=
    ⟨_, [], Db.seeded_blank _ _, Db.seeded_budgetsAgree _ _, rfl⟩
  have hqueue : Worker.queue start [] = [0] := by decide +kernel
  have hconfigured : ∀ p ∈ Worker.queue start [], Worker.Configured start p := by
    intro p hp
    rw [hqueue, List.mem_singleton] at hp
    subst hp
    refine ⟨⟨⟨0, 1⟩, by decide +kernel⟩, fun payment hpayment => ?_⟩
    obtain rfl := Option.some.inj hpayment
    decide +kernel
  have hclearing : Worker.ClearingKnown start := by
    intro a ha
    obtain rfl := List.mem_singleton.mp ha
    decide +kernel
  obtain ⟨hleft, -, hserved, -⟩ := afterRuns_queue hs .mock [] hclearing hconfigured
    (fun _ => ⟨_, rfl⟩) 25 1
  refine ⟨hqueue, ?_, hserved 0 ?_⟩
  · exact hleft.trans (by rw [show Worker.queue (State.start start).db [] = [0] from hqueue]; rfl)
  · rw [show Worker.queue (State.start start).db [] = [0] from hqueue]
    simp

end AgentPay
