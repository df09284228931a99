import AgentPay.Charging

/-!
# Workers that are repeated, late or gone

Any number of `process_one` calls on one reserved payment, each stopping anywhere, with a provider
that executes a key once and always gives the same answer for it.
-/

namespace AgentPay

open Support

/-! ### The start -/

/-- A payment that `prepare` has left to the workers: PROCESSING, with a reservation that is
RESERVED and counted, in a currency that `prepare` has compared, and no charge yet, or one that is
only filed. -/
structure ReservedPayment (db : Db) (p : PaymentId) (accounts : LedgerAccounts) : Prop where
  sound : db.Sound
  payment : ∃ payment request reservationId row, db.payments.get? p = some payment ∧
    payment.status = .processing ∧ normCurrency payment.currency = upper payment.currency ∧
    db.paymentRequests.get? payment.paymentRequestId = some request ∧
    request.budgetReservationId = some reservationId ∧
    db.budgetReservations.get? reservationId = some row ∧ row.status = .reserved ∧
    ∀ b, db.budgets[row.budgetId]? = some b → row.amount.units ≤ b.reservedAmount
  charge : ∀ o, db.providerOperations.row? (.charge p) = some o → o = Worker.freshCharge p
  accounts : accounts.Known db

/-- The first phase on such a payment. -/
lemma ReservedPayment.mark {db : Db} {p : PaymentId} {accounts : LedgerAccounts}
    (h : ReservedPayment db p accounts) :
    ∃ c marked payment operationId, Worker.mark db p accounts = .ok (c, marked) ∧
      c.paymentId = p ∧ c.accounts = accounts ∧ normCurrency c.currency = upper c.currency ∧
      Worker.TakenUp marked c payment operationId (Worker.freshCharge p) ∧
      payment.status = .processing ∧ Worker.Payable marked c := by
  obtain ⟨payment, request, reservationId, row, hp, -, hcurrency, hr, hlink, hrow, hreserved,
    hcounted⟩ := h.payment
  -- the charge is filed now, or was filed by a call that got no further
  obtain ⟨operationId, operations, hcreate, hop⟩ :
      ∃ operationId operations, PaymentRepository.createProviderOperation db p .charge (.charge p) =
        .ok (operationId, PaymentRepository.setProviderOperation
          { db with providerOperations := operations } p operationId) ∧
        operations.get? operationId = some (Worker.freshCharge p) := by
    cases hrow : db.providerOperations.row? (.charge p) with
    | none =>
      have hadmits : db.providerOperations.Admits (Worker.freshCharge p) := fun k hk o ho => by
        obtain rfl := Option.some.inj hk
        exact Table.row?_eq_none.mp hrow o ho
      have hinsert : db.providerOperations.insert? (Worker.freshCharge p) =
          some (db.providerOperations.append _ hadmits) :=
        Table.insert?_eq_some.mpr ⟨hadmits, rfl⟩
      refine ⟨_, _, by rw [PaymentRepository.createProviderOperation, hinsert], ?_⟩
      rw [Table.get?_of_rows_append rfl]
      simp [Worker.freshCharge]
    | some o =>
      obtain rfl := h.charge o hrow
      obtain ⟨hmem, hkey⟩ := Table.row?_eq_some.mp hrow
      obtain ⟨operationId, hop⟩ := List.getElem?_of_mem hmem
      have hinsert : db.providerOperations.insert? (Worker.freshCharge p) = none := by
        rw [Table.insert?_eq_none]
        exact fun hadmits => hadmits _ rfl _ hmem hkey
      have hfind := Table.find?_eq_some.mpr ⟨hop, hkey⟩
      refine ⟨operationId, db.providerOperations, ?_, hop⟩
      rw [PaymentRepository.createProviderOperation, hinsert]
      simp only [hfind]
      exact if_neg (by simp [Worker.freshCharge, PaymentRepository.newOperation])
  set c : Worker.Claim :=
    ⟨p, payment.paymentRequestId, reservationId, payment.amount, payment.currency, accounts⟩ with hc
  set linked := PaymentRepository.setProviderOperation
    { db with providerOperations := operations } p operationId with hlinked
  have hrun : Worker.mark db p accounts =
      .ok (c, PaymentRepository.updateStatus linked p .processing none) := by
    simp only [Worker.mark, hp, hr, hlink]
    exact Except.bind_eq_ok.mpr ⟨_, hcreate, rfl⟩
  obtain ⟨f, heffect, -⟩ := (Worker.mark_moves h.sound hrun).1
  refine ⟨c, _, PaymentRepository.withStatus .processing none
    { payment with providerOperationId := some operationId }, operationId, hrun, rfl, rfl,
    hcurrency, ?_, rfl, ?_⟩
  · refine ⟨?_, rfl, rfl, rfl, rfl, hop, rfl, ⟨rfl, rfl⟩, ?_, request, hr, hlink⟩
    · have hget : linked.payments.get? p =
          some { payment with providerOperationId := some operationId } :=
        (Table.get?_update_self db.payments p
          (fun p : Payment => { p with providerOperationId := some operationId })
          fun _ => rfl).trans (by rw [hp]; rfl)
      rw [get?_updateStatus, hget]
      rfl
    · intro o ho hpayment htype
      have hfiled := (heffect.sound.operation o ho).1
      rw [hfiled.key_eq_charge htype, hpayment]
  · exact ⟨⟨row, hrow, hreserved, hcounted⟩, h.accounts⟩

/-! ### Schedules -/

/-- The workers with the provider. `executed` lists the keys the provider has executed, `settled`
says that the last committed step is a `finalize`, and `raised` that some `finalize` has raised. -/
structure Attempts where
  state : State
  executed : List OperationKey
  settled : Bool
  raised : Bool

/-- One step of some `process_one` call. -/
inductive Attempt where
  | mark
  | read (worker : ℕ)
  | charge (worker : ℕ)
  | finalize (worker : ℕ)
  deriving DecidableEq, Repr

namespace Attempts

/-- No call has begun. -/
def start (db : Db) : Attempts := ⟨State.start db, [], false, false⟩

/-- A provider that executes a key at most once. -/
def execute (executed : List OperationKey) (key : OperationKey) : List OperationKey :=
  if key ∈ executed then executed else executed ++ [key]

/-- One step; the provider's answer is always the same. -/
def step (env : Env) (p : PaymentId) (accounts : LedgerAccounts) (answer : ProviderAnswer)
    (s : Attempts) : Attempt → Attempts
  | .mark =>
    { s with
      state := s.state.step env (.mark p accounts)
      settled := match Worker.mark s.state.db p accounts with
        | .ok _    => false
        | .error _ => s.settled }
  | .read w => { s with state := s.state.step env (.read w) }
  | .charge w =>
    match s.state.workers[w]? with
    | some (.calling claim) =>
      { s with
        state := s.state.step env (.charge w answer)
        executed := execute s.executed claim.charge.idempotencyKey }
    | _ => s
  | .finalize w =>
    match s.state.workers[w]? with
    | some (.answered claim a) =>
      match Worker.finalize s.state.db claim a with
      | .ok _    => { s with state := s.state.step env (.finalize w), settled := true }
      | .error _ => { s with state := s.state.step env (.finalize w), raised := true }
    | _ => s

/-! ### What every schedule keeps -/

/-- What an uninterrupted call makes of the database in its two transactions, and the answer it
leaves behind: `marked` after the first, `final` after the second. -/
structure Plan (answer : ProviderAnswer) where
  claim : Worker.Claim
  operationId : OperationId
  marked : Db
  final : Db
  taken : Payment
  decided : Payment
  charge : ProviderOperation
  currency : normCurrency claim.currency = upper claim.currency
  takenUp : Worker.TakenUp marked claim taken operationId (Worker.freshCharge claim.paymentId)
  processing : taken.status = .processing
  payable : Worker.Payable marked claim
  branch : Worker.branch marked claim answer = .ok final
  finalTakenUp : Worker.TakenUp final claim decided operationId charge
  status : decided.status = answer.outcome.paymentStatus
  booked : Worker.Booked final claim decided charge answer
  durable : charge.status.outcome? = some answer.outcome
  bookedDurable : Worker.Booked final claim decided charge
    ⟨answer.outcome, charge.providerReference⟩

variable {answer : ProviderAnswer} (plan : Plan answer)

/-- An answer that is the provider's, or that the charge records. -/
def Plan.Answers (a : ProviderAnswer) : Prop :=
  a = answer ∨ a = ⟨answer.outcome, plan.charge.providerReference⟩

lemma Plan.Answers.outcome {plan : Plan answer} {a : ProviderAnswer} (h : plan.Answers a) :
    a.outcome = answer.outcome := by
  rcases h with rfl | rfl <;> rfl

lemma Plan.Answers.booked {plan : Plan answer} {a : ProviderAnswer} (h : plan.Answers a) :
    Worker.Booked plan.final plan.claim plan.decided plan.charge a := by
  rcases h with rfl | rfl
  · exact plan.booked
  · exact plan.bookedDurable

/-- A worker's phase, while the answers it may hold are in `A`. -/
def Plan.Follows (A : ProviderAnswer → Prop) : Phase → Prop
  | .marked c | .calling c => c = plan.claim
  | .answered c a => c = plan.claim ∧ A a
  | .finished => True

/-- The invariant. Before the first finalization the tables are those after the first phase, and
an answer is one the provider has given; from then on they are the final ones, a later first phase
apart. -/
inductive Reached (s : Attempts) : Prop where
  | marked (hbooks : s.state.db.books = plan.marked.books) (hsettled : s.settled = false)
      (hworkers : ∀ phase ∈ s.state.workers, plan.Follows (fun a => a = answer ∧
        .charge plan.claim.paymentId ∈ s.executed) phase)
  | final (hbooks : s.state.db.books = plan.final.books)
      (hworkers : ∀ phase ∈ s.state.workers, plan.Follows plan.Answers phase)
      (hexecuted : .charge plan.claim.paymentId ∈ s.executed)
  | again (hbooks : s.state.db.books = (PaymentRepository.updateStatus plan.final
        plan.claim.paymentId .processing none).books) (hsettled : s.settled = false)
      (hworkers : ∀ phase ∈ s.state.workers, plan.Follows plan.Answers phase)
      (hexecuted : .charge plan.claim.paymentId ∈ s.executed)

lemma mem_execute_self (executed : List OperationKey) (key : OperationKey) :
    key ∈ execute executed key := by
  unfold execute
  split_ifs with h
  · exact h
  · simp

lemma mem_execute_of_mem {executed : List OperationKey} {key key' : OperationKey}
    (h : key ∈ executed) : key ∈ execute executed key' := by
  unfold execute
  split_ifs
  · exact h
  · simp [h]

lemma nodup_execute {executed : List OperationKey} (h : executed.Nodup) (key : OperationKey) :
    (execute executed key).Nodup := by
  unfold execute
  split_ifs with hmem
  · exact h
  · exact List.nodup_append.mpr ⟨h, List.nodup_singleton key, by
      rintro a ha b hb rfl
      exact hmem (List.mem_singleton.mp hb ▸ ha)⟩

variable {plan} {s : Attempts} {env : Env}

/-- What every reached state has in common: the payment is taken up, and any answer that a worker
holds is one of the two. -/
lemma Reached.takenUp (h : Reached plan s) :
    ∃ payment o, Worker.TakenUp s.state.db plan.claim payment plan.operationId o := by
  cases h with
  | marked hbooks => exact ⟨_, _, plan.takenUp.of_books hbooks⟩
  | final hbooks => exact ⟨_, _, plan.finalTakenUp.of_books hbooks⟩
  | again hbooks => exact ⟨_, _, (plan.finalTakenUp.updateStatus .processing none).of_books hbooks⟩

lemma follows_append {plan : Plan answer} {A : ProviderAnswer → Prop} {workers : List Phase}
    (h : ∀ phase ∈ workers, plan.Follows A phase) {phase : Phase} (hphase : plan.Follows A phase) :
    ∀ phase' ∈ workers ++ [phase], plan.Follows A phase' := by
  intro phase' hmem
  rcases List.mem_append.mp hmem with hmem | hmem
  · exact h phase' hmem
  · exact List.mem_singleton.mp hmem ▸ hphase

lemma follows_set {plan : Plan answer} {A : ProviderAnswer → Prop} {workers : List Phase}
    (h : ∀ phase ∈ workers, plan.Follows A phase) {w : ℕ} {phase : Phase}
    (hphase : plan.Follows A phase) : ∀ phase' ∈ workers.set w phase, plan.Follows A phase' := by
  intro phase' hmem
  rcases List.mem_or_eq_of_mem_set hmem with hmem | rfl
  · exact h phase' hmem
  · exact hphase

lemma Plan.Follows.mono {plan : Plan answer} {A B : ProviderAnswer → Prop}
    (h : ∀ a, A a → B a) {phase : Phase} (hphase : plan.Follows A phase) :
    plan.Follows B phase := by
  cases phase with
  | answered c a => exact ⟨hphase.1, h a hphase.2⟩
  | marked | calling | finished => exact hphase

lemma Reached.mark (h : Reached plan s) :
    Reached plan (s.step env plan.claim.paymentId plan.claim.accounts answer .mark) := by
  obtain ⟨payment, o, htaken⟩ := h.takenUp
  have hrun := htaken.mark
  simp only [step, State.step, hrun]
  cases h with
  | marked hbooks hsettled hworkers =>
    refine .marked ?_ rfl (follows_append hworkers rfl)
    have hself := updateStatus_eq_self plan.takenUp.row
    rw [plan.processing] at hself
    rw [← hself]
    exact congrArg (PaymentRepository.updateStatus · plan.claim.paymentId .processing none) hbooks
  | final hbooks hworkers hexecuted =>
    refine .again ?_ rfl (follows_append hworkers rfl) hexecuted
    exact congrArg (PaymentRepository.updateStatus · plan.claim.paymentId .processing none) hbooks
  | again hbooks hsettled hworkers hexecuted =>
    refine .again ?_ rfl (follows_append hworkers rfl) hexecuted
    rw [← updateStatus_updateStatus plan.final plan.claim.paymentId .processing .processing]
    exact congrArg (PaymentRepository.updateStatus · plan.claim.paymentId .processing none) hbooks

lemma Reached.read (h : Reached plan s) (w : ℕ) :
    Reached plan (s.step env plan.claim.paymentId plan.claim.accounts answer (.read w)) := by
  simp only [step, State.step]
  split
  · rename_i claim hw
    cases h with
    | marked hbooks hsettled hworkers =>
      obtain rfl : claim = plan.claim := hworkers _ (List.mem_of_getElem? hw)
      have hdurable := (plan.takenUp.of_books hbooks).durable
      simp only [hdurable]
      exact .marked hbooks hsettled (follows_set hworkers rfl)
    | final hbooks hworkers hexecuted =>
      obtain rfl : claim = plan.claim := hworkers _ (List.mem_of_getElem? hw)
      have hdurable := (plan.finalTakenUp.of_books hbooks).durable
      rw [plan.durable] at hdurable
      simp only [hdurable, Option.map_some]
      exact .final hbooks (follows_set hworkers ⟨rfl, .inr rfl⟩) hexecuted
    | again hbooks hsettled hworkers hexecuted =>
      obtain rfl : claim = plan.claim := hworkers _ (List.mem_of_getElem? hw)
      have hdurable := ((plan.finalTakenUp.updateStatus .processing none).of_books hbooks).durable
      rw [plan.durable] at hdurable
      simp only [hdurable, Option.map_some]
      exact .again hbooks hsettled (follows_set hworkers ⟨rfl, .inr rfl⟩) hexecuted
  · exact h

lemma Reached.charge (h : Reached plan s) (w : ℕ) :
    Reached plan (s.step env plan.claim.paymentId plan.claim.accounts answer (.charge w)) := by
  simp only [step, State.step]
  cases hw : s.state.workers[w]? with
  | none => exact h
  | some phase =>
    cases phase with
    | marked | answered | finished => exact h
    | calling claim =>
      cases h with
      | marked hbooks hsettled hworkers =>
        obtain rfl : claim = plan.claim := hworkers _ (List.mem_of_getElem? hw)
        refine .marked hbooks hsettled (follows_set (fun phase hphase => ?_)
          ⟨rfl, rfl, mem_execute_self _ _⟩)
        exact (hworkers phase hphase).mono fun a ha => ⟨ha.1, mem_execute_of_mem ha.2⟩
      | final hbooks hworkers hexecuted =>
        obtain rfl : claim = plan.claim := hworkers _ (List.mem_of_getElem? hw)
        exact .final hbooks (follows_set hworkers ⟨rfl, .inl rfl⟩) (mem_execute_of_mem hexecuted)
      | again hbooks hsettled hworkers hexecuted =>
        obtain rfl : claim = plan.claim := hworkers _ (List.mem_of_getElem? hw)
        exact .again hbooks hsettled (follows_set hworkers ⟨rfl, .inl rfl⟩)
          (mem_execute_of_mem hexecuted)

/-- A finalization goes through, and leaves the final tables. -/
lemma Reached.finalize_ok (h : Reached plan s) {w : ℕ} {claim : Worker.Claim}
    {a : ProviderAnswer} (hw : s.state.workers[w]? = some (.answered claim a)) :
    ∃ status d, Worker.finalize s.state.db claim a = .ok (status, d) ∧
      d.books = plan.final.books ∧ .charge plan.claim.paymentId ∈ s.executed ∧
      ∀ phase ∈ s.state.workers, plan.Follows plan.Answers phase := by
  cases h with
  | marked hbooks hsettled hworkers =>
    obtain ⟨rfl, rfl, hexecuted⟩ := hworkers _ (List.mem_of_getElem? hw)
    have htaken := plan.takenUp.of_books hbooks
    have hbranch := Worker.branch_books hbooks plan.claim a
    rw [plan.branch] at hbranch
    obtain ⟨d, hd, hsame⟩ : ∃ d, Worker.branch s.state.db plan.claim a = .ok d ∧
        d.books = plan.final.books := by
      cases hd : Worker.branch s.state.db plan.claim a with
      | error e => simp [hd, Except.map] at hbranch
      | ok d => exact ⟨d, rfl, by simpa [hd, Except.map] using hbranch⟩
    refine ⟨a.outcome.paymentStatus, d, ?_, hsame, hexecuted, fun phase hphase => ?_⟩
    · rw [htaken.finalize plan.currency plan.processing, hd]
      rfl
    · exact (hworkers phase hphase).mono fun a ha => .inl ha.1
  | final hbooks hworkers hexecuted =>
    obtain ⟨rfl, ha⟩ := hworkers _ (List.mem_of_getElem? hw)
    have htaken := plan.finalTakenUp.of_books hbooks
    refine ⟨a.outcome.paymentStatus, s.state.db, htaken.finalize_decided plan.currency ?_, hbooks,
      hexecuted, hworkers⟩
    rw [plan.status, ha.outcome]
  | again hbooks hsettled hworkers hexecuted =>
    obtain ⟨rfl, ha⟩ := hworkers _ (List.mem_of_getElem? hw)
    have htaken := (plan.finalTakenUp.updateStatus .processing none).of_books hbooks
    have hbooked := (ha.booked.withStatus .processing).of_books hbooks
    obtain ⟨d, hd, hsame⟩ := hbooked.branch htaken
    refine ⟨a.outcome.paymentStatus, d, ?_, ?_, hexecuted, hworkers⟩
    · rw [htaken.finalize plan.currency rfl, hd]
      rfl
    · have hback := updateStatus_updateStatus plan.final plan.claim.paymentId .processing
        answer.outcome.paymentStatus
      have hself := updateStatus_eq_self plan.finalTakenUp.row
      rw [plan.status] at hself
      rw [hself] at hback
      rw [hsame, ha.outcome, ← hback]
      exact congrArg (PaymentRepository.updateStatus · plan.claim.paymentId
        answer.outcome.paymentStatus none) hbooks

lemma Reached.finalize (h : Reached plan s) (hraised : s.raised = false) (w : ℕ) :
    let s' := s.step env plan.claim.paymentId plan.claim.accounts answer (.finalize w)
    Reached plan s' ∧ s'.raised = false := by
  simp only [step]
  split
  · rename_i claim a hw
    obtain ⟨status, d, hrun, hbooks, hexecuted, hworkers⟩ := h.finalize_ok hw
    simp only [hrun, State.step, hw]
    exact ⟨.final hbooks (follows_set hworkers trivial) hexecuted, hraised⟩
  · exact ⟨h, hraised⟩

/-- Nothing has happened yet, or the payment has been taken up. -/
def Invariant (db : Db) (plan : Plan answer) (s : Attempts) : Prop :=
  (s = start db ∨ Reached plan s) ∧ s.raised = false ∧ s.executed.Nodup

lemma step_invariant {db : Db} (plan : Plan answer)
    (hmark : Worker.mark db plan.claim.paymentId plan.claim.accounts =
      .ok (plan.claim, plan.marked)) (s : Attempts) (a : Attempt)
    (h : Invariant db plan s) :
    Invariant db plan (s.step env plan.claim.paymentId plan.claim.accounts answer a) := by
  obtain ⟨rfl | hreached, hraised, hnodup⟩ := h
  · cases a with
    | mark =>
      refine ⟨.inr ?_, rfl, hnodup⟩
      simp only [step, start, State.step, State.start, hmark]
      exact .marked rfl rfl (by simp [Plan.Follows])
    | read w | charge w | finalize w => exact ⟨.inl rfl, rfl, hnodup⟩
  · cases a with
    | mark => exact ⟨.inr hreached.mark, hraised, hnodup⟩
    | read w => exact ⟨.inr (hreached.read w), hraised, hnodup⟩
    | charge w =>
      refine ⟨.inr (hreached.charge w), ?_, ?_⟩
      all_goals
        simp only [step]
        split
      · exact hraised
      · exact hraised
      · exact nodup_execute hnodup _
      · exact hnodup
    | finalize w =>
      refine ⟨.inr (hreached.finalize hraised w).1, (hreached.finalize hraised w).2, ?_⟩
      simp only [step]
      split
      · split <;> exact hnodup
      · exact hnodup

end Attempts

/-- The plan of a payment left to the workers. -/
lemma ReservedPayment.plan {db : Db} {p : PaymentId} {accounts : LedgerAccounts}
    (h : ReservedPayment db p accounts) (answer : ProviderAnswer) :
    ∃ plan : Attempts.Plan answer, plan.claim.paymentId = p ∧ plan.claim.accounts = accounts ∧
      Worker.mark db p accounts = .ok (plan.claim, plan.marked) := by
  obtain ⟨c, marked, payment, operationId, hrun, hp, haccounts, hcurrency, htaken, hprocessing,
    hpayable⟩ := h.mark
  obtain ⟨d, payment', o, hbranch, htaken', hstatus, hbooked, hdurable, hbooked'⟩ :=
    hpayable.branch (hp ▸ htaken) answer
  exact ⟨⟨c, operationId, marked, d, payment, payment', o, hcurrency, hp ▸ htaken, hprocessing,
    hpayable, hbranch, htaken', hstatus, hbooked, hdurable, hbooked'⟩, hp, haccounts, hrun⟩

/-- However many `process_one` calls work on a reserved payment, wherever they stop and however
their steps interleave: no `finalize` raises, and whenever a `finalize` is the last step that
committed, the tables are those of one uninterrupted call and the provider has executed the charge
exactly once. -/
theorem run_attempts {db : Db} {p : PaymentId} {accounts : LedgerAccounts}
    (h : ReservedPayment db p accounts) (env : Env) (answer : ProviderAnswer)
    (schedule : List Attempt) :
    ∃ status final, processOne db p accounts answer = .ok (status, final) ∧
      let s := Machine.run (Attempts.step env p accounts answer) (Attempts.start db) schedule
      s.raised = false ∧ (s.settled = true →
        s.state.db.books = final.books ∧ s.executed.count (.charge p) = 1) := by
  obtain ⟨plan, rfl, rfl, hmark⟩ := h.plan answer
  have hprocess : processOne db plan.claim.paymentId plan.claim.accounts answer =
      .ok (answer.outcome.paymentStatus, plan.final) := by
    rw [processOne, hmark]
    have hdurable := plan.takenUp.durable
    have hfinalize := plan.takenUp.finalize plan.currency plan.processing answer
    rw [plan.branch] at hfinalize
    simp only [bind, Except.bind, hdurable]
    exact hfinalize
  refine ⟨_, _, hprocess, ?_⟩
  obtain ⟨hreached, hraised, hnodup⟩ := Machine.run_invariant
    (Attempts.step_invariant plan hmark)
    ⟨.inl rfl, rfl, List.nodup_nil⟩ schedule
  refine ⟨hraised, fun hsettled => ?_⟩
  rcases hreached with hstart | hreached
  · rw [hstart] at hsettled
    cases hsettled
  · cases hreached with
    | marked _ hfalse => simp [hfalse] at hsettled
    | again _ hfalse => simp [hfalse] at hsettled
    | final hbooks _ hexecuted => exact ⟨hbooks, List.count_eq_one_of_mem hnodup hexecuted⟩

/-- A worker that charges and stops, one that charges again and finishes, and two that come late. -/
theorem run_attempts_late :
    ∃ status final, processOne (.seeded .processing (some .reserved)) 0 ⟨0, 1⟩
        ⟨.succeeded, some "ref"⟩ = .ok (status, final) ∧
      let s := Machine.run (Attempts.step .bare 0 ⟨0, 1⟩ ⟨.succeeded, some "ref"⟩)
        (Attempts.start (.seeded .processing (some .reserved)))
        [.mark, .read 0, .mark, .charge 0, .read 1, .charge 1, .finalize 1, .mark, .mark,
          .finalize 0, .read 2, .read 3, .finalize 2]
      s.raised = false ∧ (s.settled = true →
        s.state.db.books = final.books ∧ s.executed.count (.charge 0) = 1) := by
  refine run_attempts ⟨Db.seeded_sound _ _, ?_, ?_, by decide⟩ .bare ⟨.succeeded, some "ref"⟩ _
  · refine ⟨_, _, 0, _, rfl, rfl, by decide +kernel, rfl, rfl, rfl, rfl, fun b hb => ?_⟩
    obtain rfl := Option.some.inj hb
    decide
  · intro o ho
    cases ho

end AgentPay
