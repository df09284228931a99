import AgentPay.Approvals

/-!
# Idempotent creation

Any number of `create_payment` calls may carry one `Idempotency-Key` of an account. Under the key
there is one payment at most; every call that is answered with a payment is answered with that one,
and a call for something else is refused and changes nothing.
-/

namespace AgentPay

open Support

/-! ### Rows that stay -/

lemma State.step_payment {env : Env} {s : State} {p : PaymentId} {payment : Payment}
    (hp : s.db.payments.get? p = some payment) (c : Action) :
    ∃ payment', (s.step env c).db.payments.get? p = some payment' ∧
      payment'.terms = payment.terms := by
  have hwrites := step_writes env s c
  generalize (s.step env c).db = db at hwrites
  cases hwrites with
  | nothing | configures | replays => exact ⟨payment, hp, rfl⟩
  | executes _ hexecutes | finalizes _ hexecutes => exact exists_of_map_eq (hexecutes.payments p) hp
  | accepts hcreation hopens hdecides =>
    obtain ⟨v, -, hcommits, -⟩ := hopens.decided hdecides
    exact ⟨payment, (Table.get?_append_lt hcommits.payments (Table.get?_lt hp)).trans hp, rfl⟩
  | @approves now id reason authorization x _ hrun =>
    obtain ⟨q, status⟩ := x
    obtain ⟨actor, approval, request, payment', budgetId, budget, happroves⟩ :=
      approvePayment_rows hrun
    exact exists_of_map_eq (happroves.payment_terms p) hp
  | denies hrun =>
    obtain ⟨actor, approval, -, -, -, -, -, -, hpayments, -⟩ := denyPayment_rows hrun
    exact exists_of_map_eq (hpayments p) hp

lemma State.step_reservation {env : Env} {s : State} {r : ReservationId} {row : BudgetReservation}
    (hr : s.db.budgetReservations.get? r = some row) (c : Action) :
    ∃ row', (s.step env c).db.budgetReservations.get? r = some row' ∧ row'.terms = row.terms := by
  have hwrites := step_writes env s c
  generalize (s.step env c).db = db at hwrites
  cases hwrites with
  | nothing | configures | replays => exact ⟨row, hr, rfl⟩
  | executes _ hexecutes | finalizes _ hexecutes =>
    exact exists_of_map_eq (hexecutes.reservations r) hr
  | accepts hcreation hopens hdecides =>
    obtain ⟨v, -, hcommits, -⟩ := hopens.decided hdecides
    exact ⟨row, (Table.get?_append_lt hcommits.reservations (Table.get?_lt hr)).trans hr, rfl⟩
  | @approves now id reason authorization x _ hrun =>
    obtain ⟨q, status⟩ := x
    obtain ⟨actor, approval, request, payment, budgetId, budget, happroves⟩ :=
      approvePayment_rows hrun
    exact ⟨row, (Table.get?_append_lt happroves.reservations (Table.get?_lt hr)).trans hr, rfl⟩
  | denies hrun =>
    obtain ⟨actor, approval, -, -, -, -, -, hreservations, -⟩ := denyPayment_rows hrun
    exact ⟨row, hreservations ▸ hr, rfl⟩

/-! ### What is under a key -/

namespace Db

/-- The request is one of the account under the key. -/
def RequestUnder (db : Db) (accountId key : String) (i : RequestId) : Prop :=
  ∃ r ∈ db.paymentRequests.get? i, r.accountId = accountId ∧ r.idempotencyKey = key

def PaymentUnder (db : Db) (accountId key : String) (p : PaymentId) : Prop :=
  ∃ payment ∈ db.payments.get? p, db.RequestUnder accountId key payment.paymentRequestId

def ApprovalUnder (db : Db) (accountId key : String) (id : ApprovalId) : Prop :=
  ∃ a ∈ db.approvals[id]?, db.RequestUnder accountId key a.paymentRequestId

def ReservationUnder (db : Db) (accountId key : String) (r : ReservationId) : Prop :=
  ∃ row ∈ db.budgetReservations.get? r, db.RequestUnder accountId key row.paymentRequestId

/-- What is under a key in two databases is one request, one payment, one approval and one
reservation at most. -/
structure OneUnder (accountId key : String) (db db' : Db) : Prop where
  request : ∀ i i', db.RequestUnder accountId key i → db'.RequestUnder accountId key i' → i = i'
  payment : ∀ p p', db.PaymentUnder accountId key p → db'.PaymentUnder accountId key p' → p = p'
  approval : ∀ a a', db.ApprovalUnder accountId key a → db'.ApprovalUnder accountId key a' → a = a'
  reservation : ∀ r r', db.ReservationUnder accountId key r →
    db'.ReservationUnder accountId key r' → r = r'

/-- The unique key of the requests. -/
lemma RequestUnder.unique {db : Db} {accountId key : String} {i i' : RequestId}
    (h : db.RequestUnder accountId key i) (h' : db.RequestUnder accountId key i') : i = i' := by
  obtain ⟨r, hr, rfl, rfl⟩ := h
  obtain ⟨r', hr', haccount, hkey⟩ := h'
  refine Table.id_unique hr hr' rfl ?_
  rw [PaymentRequest.key, haccount, hkey]

end Db

/-- A request stays under its key. -/
lemma State.run_requestUnder {env : Env} {s : State} {accountId key : String} {i : RequestId}
    (h : s.db.RequestUnder accountId key i) (as : List Action) :
    (Machine.run (step env) s as).db.RequestUnder accountId key i := by
  obtain ⟨r, hr, rfl, rfl⟩ := h
  obtain ⟨r', hr', horder⟩ := run_order hr as
  exact ⟨r', hr', (congrArg PaymentRequest.accountId horder :),
    (congrArg PaymentRequest.idempotencyKey horder :)⟩

/-- Whatever is under a key before a run and after it is the same. -/
lemma State.Occurs.oneUnder {env : Env} {s : State} (h : s.Occurs env) (accountId key : String)
    (as : List Action) :
    Db.OneUnder accountId key s.db (Machine.run (State.step env) s as).db := by
  have hafter := h.run as
  have hsame {i i' : RequestId} (hi : s.db.RequestUnder accountId key i)
      (hi' : (Machine.run (State.step env) s as).db.RequestUnder accountId key i') : i = i' :=
    (run_requestUnder hi as).unique hi'
  refine ⟨fun i i' => hsame, ?_, ?_, ?_⟩
  · rintro p p' ⟨payment, hp, hrequest⟩ ⟨payment', hp', hrequest'⟩
    obtain ⟨kept, hkept, hterms⟩ :=
      run_row (fun db => db.payments.get? p) (fun _ c _ hp => step_payment hp c) hp as
    simp only [Payment.terms, Prod.mk.injEq] at hterms
    refine Table.id_unique hkept hp' rfl ?_
    rw [Payment.key, hterms.1, hsame hrequest hrequest']
  · rintro id id' ⟨a, ha, hrequest⟩ ⟨a', ha', hrequest'⟩
    obtain ⟨kept, hkept, hterms, -⟩ := run_approval_kept ha as
    simp only [Approval.terms, Prod.mk.injEq] at hterms
    exact hafter.deliberate.eq_of_request hkept ha'
      (hterms.1.trans (hsame hrequest hrequest'))
  · rintro r r' ⟨row, hr, hrequest⟩ ⟨row', hr', hrequest'⟩
    obtain ⟨kept, hkept, hterms⟩ := run_row (fun db => db.budgetReservations.get? r)
      (fun _ c _ hr => step_reservation hr c) hr as
    simp only [BudgetReservation.terms, Prod.mk.injEq] at hterms
    exact hafter.reachable.invariant.sound.reservation_unique hkept hr'
      (hterms.2.1.trans (hsame hrequest hrequest'))

/-! ### Answers -/

/-- The steps of `create_payment`. -/
def Action.creates : Action → Bool
  | .openPayment _ _ | .insertRequest _ _ | .commitPayment _ _ | .abandonPayment _ => true
  | _                                                                          => false

/-- What a creation that is under way carries. -/
def Creation.intake? : Creation → Option Intake
  | .opened i | .inserted i => some i
  | .finished               => none

/-- A step that answers a creation: at once, or by the end of its transaction. -/
inductive State.Answers (env : Env) (s : State) : CreateAnswer → Db → Prop where
  | opening {now call result} (h : openPayment env now s.db call = .answered result) :
      Answers env s ⟨call.request.accountId, call.idempotencyKey,
        requestFingerprint env call.request, result⟩ s.db
  | returns {now creation i outcome db} (hcreation : creation ∈ s.creations)
      (hi : creation.intake? = some i) (h : acceptPayment env now s.db i = .ok (outcome, db)) :
      Answers env s (State.answer i (.ok outcome)) db
  | raises {now i e} (h : acceptPayment env now s.db i = .error e) :
      Answers env s (State.answer i (.error e)) s.db

lemma State.accepted_answers {env : Env} {s : State} {creation : Creation} {i : Intake}
    (hcreation : creation ∈ s.creations) (hi : creation.intake? = some i) (now : Time) (c : ℕ) :
    ∃ x, (s.accepted env now c i).answers = s.answers ++ [x] ∧
      Answers env s x (s.accepted env now c i).db := by
  simp only [accepted]
  split
  · rename_i outcome db hrun
    exact ⟨_, rfl, .returns hcreation hi hrun⟩
  · rename_i e hrun
    exact ⟨_, rfl, .raises hrun⟩

/-- A step answers one creation or none; a step of a creation that answers none writes nothing. -/
lemma State.step_answered (env : Env) (s : State) (a : Action) :
    ((s.step env a).answers = s.answers ∧ (a.creates = true → (s.step env a).db = s.db)) ∨
      ∃ x, (s.step env a).answers = s.answers ++ [x] ∧ Answers env s x (s.step env a).db := by
  cases a with
  | openPayment now call =>
    simp only [step]
    split
    · rename_i result hopen
      exact .inr ⟨_, rfl, .opening hopen⟩
    · exact .inl ⟨rfl, fun _ => rfl⟩
  | insertRequest c now =>
    simp only [step]
    split
    · rename_i i hopened
      simp only [insert]
      split_ifs
      · exact .inl ⟨rfl, fun _ => rfl⟩
      · split
        · exact .inr (accepted_answers (List.mem_of_getElem? hopened) rfl now c)
        · exact .inl ⟨rfl, fun _ => rfl⟩
    · exact .inl ⟨rfl, fun _ => rfl⟩
  | commitPayment c now =>
    simp only [step]
    split
    · rename_i i hinserted
      exact .inr (accepted_answers (List.mem_of_getElem? hinserted) rfl now c)
    · exact .inl ⟨rfl, fun _ => rfl⟩
  | abandonPayment c => exact .inl ⟨rfl, fun _ => rfl⟩
  | mark p accounts =>
    simp only [step]
    split <;> exact .inl ⟨rfl, fun h => absurd h Bool.false_ne_true⟩
  | read w =>
    simp only [step]
    split
    · split <;> exact .inl ⟨rfl, fun h => absurd h Bool.false_ne_true⟩
    · exact .inl ⟨rfl, fun h => absurd h Bool.false_ne_true⟩
  | charge w answer | finalize w =>
    simp only [step]
    split <;> exact .inl ⟨rfl, fun h => absurd h Bool.false_ne_true⟩
  | _ => exact .inl ⟨rfl, fun h => absurd h Bool.false_ne_true⟩

/-- What a creation carries after a step it carried before, or has just opened with. -/
lemma State.step_intake {env : Env} {s : State} {a : Action} {creation : Creation} {i : Intake}
    (hcreation : creation ∈ (s.step env a).creations) (hi : creation.intake? = some i) :
    (∃ creation' ∈ s.creations, creation'.intake? = some i) ∨
      ∃ now call, a = .openPayment now call ∧ openPayment env now s.db call = .intake i := by
  have hset {c : ℕ} {new : Creation} (hmem : creation ∈ s.creations.set c new)
      (hnew : creation = new → ∃ creation' ∈ s.creations, creation'.intake? = some i) :
      ∃ creation' ∈ s.creations, creation'.intake? = some i := by
    rcases List.mem_or_eq_of_mem_set hmem with hmem | heq
    · exact ⟨creation, hmem, hi⟩
    · exact hnew heq
  have hfinished {c : ℕ} (hmem : creation ∈ s.creations.set c .finished) :
      ∃ creation' ∈ s.creations, creation'.intake? = some i := by
    refine hset hmem fun heq => ?_
    rw [heq] at hi
    cases hi
  have haccepted {now : Time} {c : ℕ} {j : Intake}
      (hmem : creation ∈ (s.accepted env now c j).creations) :
      ∃ creation' ∈ s.creations, creation'.intake? = some i := by
    simp only [accepted] at hmem
    split at hmem <;> exact hfinished hmem
  cases a with
  | openPayment now call =>
    simp only [step] at hcreation
    split at hcreation
    · exact .inl ⟨creation, hcreation, hi⟩
    · rename_i j hopen
      rcases List.mem_append.mp hcreation with hmem | hmem
      · exact .inl ⟨creation, hmem, hi⟩
      · obtain rfl := List.mem_singleton.mp hmem
        obtain rfl : j = i := Option.some.inj hi
        exact .inr ⟨now, call, rfl, hopen⟩
  | insertRequest c now =>
    simp only [step] at hcreation
    split at hcreation
    · rename_i j hopened
      simp only [insert] at hcreation
      split_ifs at hcreation
      · exact .inl ⟨creation, hcreation, hi⟩
      · split at hcreation
        · exact .inl (haccepted hcreation)
        · refine .inl (hset hcreation fun heq => ?_)
          rw [heq] at hi
          obtain rfl : j = i := Option.some.inj hi
          exact ⟨_, List.mem_of_getElem? hopened, rfl⟩
    · exact .inl ⟨creation, hcreation, hi⟩
  | commitPayment c now =>
    simp only [step] at hcreation
    split at hcreation
    · exact .inl (haccepted hcreation)
    · exact .inl ⟨creation, hcreation, hi⟩
  | abandonPayment c => exact .inl (hfinished hcreation)
  | mark p accounts | charge w answer | finalize w =>
    simp only [step] at hcreation
    split at hcreation <;> exact .inl ⟨creation, hcreation, hi⟩
  | read w =>
    simp only [step] at hcreation
    split at hcreation
    · split at hcreation <;> exact .inl ⟨creation, hcreation, hi⟩
    · exact .inl ⟨creation, hcreation, hi⟩
  | _ => exact .inl ⟨creation, hcreation, hi⟩

/-! ### What an answer rests on -/

lemma checkCall_key {env : Env} {call : CreateCall} {key : String} {evidence : EvidenceBody}
    (h : checkCall env call = .ok (key, evidence)) : call.idempotencyKey = some key := by
  simp only [checkCall] at h
  split at h
  · cases h
  rename_i key' hkey
  split_ifs at h
  obtain ⟨-, -, h⟩ := Except.bind_eq_ok.mp h
  split at h
  · cases h
  obtain ⟨rfl, -⟩ := Prod.mk.inj (Except.ok.inj h)
  obtain ⟨given, hgiven, hnonempty⟩ := Option.bind_eq_some_iff.mp hkey
  rw [hgiven, orNone_eq_some hnonempty]

/-- What goes on to the insert is what was asked for. -/
lemma openPayment_intake {env : Env} {now : Time} {db : Db} {call : CreateCall} {i : Intake}
    (h : openPayment env now db call = .intake i) :
    i.request = call.request ∧ call.idempotencyKey = some i.idempotencyKey ∧
      i.fingerprint = requestFingerprint env call.request := by
  simp only [openPayment] at h
  split at h
  · cases h
  rename_i key evidence hcheck
  split at h
  · cases h
  split at h
  · cases h
  obtain rfl := Opening.intake.inj h
  exact ⟨rfl, checkCall_key hcheck, rfl⟩

/-- A call that is answered at once with a payment found a request under its key. -/
lemma openPayment_returned {env : Env} {now : Time} {db : Db} {call : CreateCall}
    {outcome : CreateOutcome} (h : openPayment env now db call = .answered (.ok outcome)) :
    ∃ key requestId existing, call.idempotencyKey = some key ∧
      PaymentRepository.findByIdempotency db call.request.accountId key =
        some (requestId, existing) ∧
      replay db (requestFingerprint env call.request) requestId existing = .ok outcome := by
  simp only [openPayment] at h
  split at h
  · cases Opening.answered.inj h
  rename_i key evidence hcheck
  split at h
  · rename_i requestId existing hfind
    exact ⟨key, requestId, existing, checkCall_key hcheck, hfind, Opening.answered.inj h⟩
  split at h
  · cases Opening.answered.inj h
  · cases h

/-- A replay is of the payment of the request, for the fingerprint that is stored. -/
lemma replay_eq_ok {db : Db} {fingerprint : String} {requestId : RequestId}
    {existing : PaymentRequest} {outcome : CreateOutcome}
    (h : replay db fingerprint requestId existing = .ok outcome) :
    (∀ stored, existing.requestFingerprint = some stored → stored ≠ "" → stored = fingerprint) ∧
      ∃ p payment, db.payments.find? requestId = some (p, payment) ∧
        outcome = .returned p payment.status .replayed := by
  simp only [replay] at h
  split_ifs at h with hdiffers
  refine ⟨fun stored hstored hne => ?_, ?_⟩
  · rw [hstored, Option.bind_some, orNone, if_neg hne] at hdiffers
    simpa using hdiffers
  · split at h
    · rename_i p payment hfind
      exact ⟨p, payment, hfind, (Except.ok.inj h).symm⟩
    · cases h

/-- Payment `p` is the one under the key of an answer, for what was asked. -/
def CreateAnswer.Names (x : CreateAnswer) (db : Db) (p : PaymentId) : Prop :=
  ∃ payment ∈ db.payments.get? p, ∃ request ∈ db.paymentRequests.get? payment.paymentRequestId,
    request.accountId = x.accountId ∧ some request.idempotencyKey = x.idempotencyKey ∧
      request.requestFingerprint = some x.fingerprint

/-- Every request that is stored, and every creation that is under way, has a fingerprint. -/
structure State.Fingerprinted (s : State) : Prop where
  stored : ∀ request ∈ s.db.paymentRequests.rows,
    ∃ fingerprint, request.requestFingerprint = some fingerprint ∧ fingerprint ≠ ""
  carried : ∀ creation ∈ s.creations, ∀ i ∈ creation.intake?, i.fingerprint ≠ ""

lemma State.Fingerprinted.step {env : Env} (hdigest : ∀ json, env.digest json ≠ "") {s : State}
    (h : s.Fingerprinted) (a : Action) : (s.step env a).Fingerprinted := by
  refine ⟨?_, fun creation hcreation i hi => ?_⟩
  · have hwrites := step_writes env s a
    generalize (s.step env a).db = db at hwrites
    cases hwrites with
    | nothing | configures | replays => exact h.stored
    | executes _ hexecutes | finalizes _ hexecutes =>
      have hrequests : db.paymentRequests = s.db.paymentRequests :=
        congrArg Decisions.paymentRequests hexecutes.decisions
      rw [hrequests]
      exact h.stored
    | accepts hcreation hopens hdecides =>
      obtain ⟨v, -, hcommits, -⟩ := hopens.decided hdecides
      rw [hcommits.requests]
      intro request hmem
      rcases List.mem_append.mp hmem with hmem | hmem
      · exact h.stored request hmem
      · obtain rfl := List.mem_singleton.mp hmem
        exact ⟨_, rfl, h.carried _ (List.mem_of_getElem? hcreation) _ rfl⟩
    | @approves now id reason authorization x _ hrun =>
      obtain ⟨p, status⟩ := x
      obtain ⟨actor, approval, request, payment, budgetId, budget, happroves⟩ :=
        approvePayment_rows hrun
      intro request' hmem
      obtain ⟨i, hi⟩ := List.mem_iff_getElem?.mp hmem
      obtain ⟨request₀, hget, ⟨-, rfl⟩ | ⟨-, -, rfl⟩⟩ := happroves.request_some hi
      · exact h.stored _ (Table.mem_of_get? hget)
      · exact h.stored request₀ (Table.mem_of_get? hget)
    | denies hrun =>
      obtain ⟨actor, approval, -, -, -, hrequests, -⟩ := denyPayment_rows hrun
      rw [hrequests]
      exact h.stored
  · rcases step_intake hcreation hi with ⟨creation', hmem, hi'⟩ | ⟨now, call, -, hopen⟩
    · exact h.carried creation' hmem i hi'
    · rw [(openPayment_intake hopen).2.2]
      exact hdigest _

lemma State.Occurs.fingerprinted {env : Env} (hdigest : ∀ json, env.digest json ≠ "") {s : State}
    (h : s.Occurs env) : s.Fingerprinted := by
  refine h.invariant (I := Fingerprinted) (fun db hfresh => ⟨?_, ?_⟩) fun s a _ hs =>
    hs.step hdigest a
  · have hnone : (start db).db.paymentRequests.rows = [] := hfresh.paymentRequests
    rw [hnone]
    exact fun request hrequest => absurd hrequest List.not_mem_nil
  · exact fun creation hcreation => absurd hcreation List.not_mem_nil

/-- A replayed answer names the payment under its key. -/
lemma CreateAnswer.Names.replayed {x : CreateAnswer} {db : Db} {p : PaymentId} {key : String}
    {status : PaymentStatus} {detail : CreateDetail} {requestId : RequestId}
    {existing : PaymentRequest}
    (hstored : ∀ request ∈ db.paymentRequests.rows,
      ∃ fingerprint, request.requestFingerprint = some fingerprint ∧ fingerprint ≠ "")
    (hkey : x.idempotencyKey = some key)
    (hfind : PaymentRepository.findByIdempotency db x.accountId key = some (requestId, existing))
    (hreplay : replay db x.fingerprint requestId existing = .ok (.returned p status detail)) :
    x.Names db p := by
  obtain ⟨hsame, q, payment, hpayment, houtcome⟩ := replay_eq_ok hreplay
  obtain ⟨rfl, -⟩ := CreateOutcome.returned.inj houtcome
  obtain ⟨hrequest, hunder⟩ := Table.find?_eq_some.mp hfind
  obtain ⟨hp, hof⟩ := Table.find?_eq_some.mp hpayment
  obtain ⟨stored, hfingerprint, hne⟩ := hstored existing (Table.mem_of_get? hrequest)
  obtain ⟨haccount, hkey'⟩ := Prod.mk.inj (Option.some.inj hunder)
  have hof : payment.paymentRequestId = requestId := Option.some.inj hof
  refine ⟨payment, hp, existing, hof ▸ hrequest, haccount, ?_, ?_⟩
  · rw [hkey', hkey]
  · rw [hfingerprint, hsame stored hfingerprint hne]

/-- What a step answers with a payment names it. -/
lemma State.Answers.names {env : Env} {s : State} (h : s.Fingerprinted) {x : CreateAnswer} {db : Db}
    (hanswers : State.Answers env s x db) {p : PaymentId} {status : PaymentStatus}
    {detail : CreateDetail} (hresult : x.result = .ok (.returned p status detail)) :
    x.Names db p := by
  cases hanswers with
  | @opening now call result hopen =>
    obtain rfl : result = .ok (.returned p status detail) := hresult
    obtain ⟨key, requestId, existing, hkey, hfind, hreplay⟩ := openPayment_returned hopen
    exact CreateAnswer.Names.replayed h.stored hkey hfind hreplay
  | @returns now creation i outcome db hcreation hi hrun =>
    obtain rfl : outcome = .returned p status detail := Except.ok.inj hresult
    rcases acceptPayment_cases hrun with ⟨requestId, existing, added, hfind, hreplay, rfl⟩ |
      ⟨amount, merchantId, opened, hopens, -, hdecides⟩
    · have hnames : (State.answer i (.ok (.returned p status detail))).Names s.db p :=
        CreateAnswer.Names.replayed h.stored rfl hfind hreplay
      exact hnames
    · obtain ⟨v, -, hcommits, detail, houtcome⟩ := hopens.decided hdecides
      have hp : p = s.db.payments.nextId := by
        cases v with
        | denied | unfunded => cases houtcome
        | waits | starts => exact (CreateOutcome.returned.inj houtcome).1
      subst hp
      exact ⟨_, (Table.get?_of_rows_append hcommits.payments _).trans (if_pos rfl), _,
        (Table.get?_of_rows_append hcommits.requests _).trans (if_pos rfl), rfl, rfl, rfl⟩
  | raises hrun => cases hresult

lemma CreateAnswer.Names.step {env : Env} {s : State} {x : CreateAnswer} {p : PaymentId}
    (h : x.Names s.db p) (a : Action) : x.Names (s.step env a).db p := by
  obtain ⟨payment, hp, request, hrequest, haccount, hkey, hfingerprint⟩ := h
  obtain ⟨payment', hp', hterms⟩ := State.step_payment hp a
  obtain ⟨request', hrequest', horder⟩ := State.step_order hrequest a
  simp only [Payment.terms, Prod.mk.injEq] at hterms
  have haccount' : request'.accountId = request.accountId :=
    (congrArg PaymentRequest.accountId horder :)
  have hkey' : request'.idempotencyKey = request.idempotencyKey :=
    (congrArg PaymentRequest.idempotencyKey horder :)
  have hfingerprint' : request'.requestFingerprint = request.requestFingerprint :=
    (congrArg PaymentRequest.requestFingerprint horder :)
  exact ⟨payment', hp', request', hterms.1 ▸ hrequest', haccount'.trans haccount,
    hkey' ▸ hkey, hfingerprint'.trans hfingerprint⟩

/-- Every answer with a payment names it. -/
lemma State.Occurs.names {env : Env} (hdigest : ∀ json, env.digest json ≠ "") {s : State}
    (h : s.Occurs env) : ∀ x ∈ s.answers, ∀ p status detail,
    x.result = .ok (.returned p status detail) → x.Names s.db p := by
  refine h.invariant (I := fun s => ∀ x ∈ s.answers, ∀ p status detail,
    x.result = .ok (.returned p status detail) → x.Names s.db p)
    (fun db _ x hx => absurd hx List.not_mem_nil)
    fun s a hs hnames x hx p status detail hresult => ?_
  rcases State.step_answered env s a with ⟨hsame, -⟩ | ⟨y, hadded, hanswers⟩
  · exact (hnames x (hsame ▸ hx) p status detail hresult).step a
  · rw [hadded] at hx
    rcases List.mem_append.mp hx with hx | hx
    · exact (hnames x hx p status detail hresult).step a
    · obtain rfl := List.mem_singleton.mp hx
      exact hanswers.names (hs.fingerprinted hdigest) hresult

/-! ### Refusals -/

/-- The request that is under the key of a returned answer has its fingerprint. -/
lemma CreateAnswer.Names.fingerprint {x : CreateAnswer} {db : Db} {p : PaymentId}
    (h : x.Names db p) {request : PaymentRequest} (hmem : request ∈ db.paymentRequests.rows)
    (haccount : request.accountId = x.accountId)
    (hkey : some request.idempotencyKey = x.idempotencyKey) :
    request.requestFingerprint = some x.fingerprint := by
  obtain ⟨payment, -, request', hrequest', haccount', hkey', hfingerprint⟩ := h
  have hsame : request' = request := by
    refine Table.row_unique (Table.mem_of_get? hrequest') hmem rfl ?_
    rw [PaymentRequest.key, haccount, haccount', Option.some.inj (hkey.trans hkey'.symm)]
  rw [← hsame, hfingerprint]

/-- A creation that is decided is not for a request that is stored. -/
lemma Opens.unstored {db opened : Db} {i : Intake} {amount : Amount}
    {merchantId : Option MerchantId} (h : Opens db i amount merchantId opened)
    {request : PaymentRequest} (hmem : request ∈ db.paymentRequests.rows)
    (haccount : request.accountId = i.request.accountId)
    (hkey : request.idempotencyKey = i.idempotencyKey) : False := by
  refine Table.row?_eq_none.mp h.free request hmem ?_
  rw [PaymentRequest.key, haccount, hkey]

/-- A call whose fingerprint is not the one that is stored under its key is refused, and writes
nothing. -/
lemma State.Answers.refused {env : Env} {s : State} (h : s.Fingerprinted) {x : CreateAnswer}
    {db : Db} (hanswers : State.Answers env s x db) {request : PaymentRequest}
    (hmem : request ∈ s.db.paymentRequests.rows) (haccount : request.accountId = x.accountId)
    (hkey : some request.idempotencyKey = x.idempotencyKey)
    (hdiffers : request.requestFingerprint ≠ some x.fingerprint) :
    (∃ e, x.result = .error e) ∧ db = s.db := by
  have hreturned {p : PaymentId} {status : PaymentStatus} {detail : CreateDetail}
      (hresult : x.result = .ok (.returned p status detail)) (hnames : x.Names s.db p) : False :=
    hdiffers (hnames.fingerprint hmem haccount hkey)
  cases hanswers with
  | @opening now call result hopen =>
    refine ⟨?_, rfl⟩
    cases result with
    | error e => exact ⟨e, rfl⟩
    | ok outcome =>
      obtain ⟨key, requestId, existing, hgiven, hfind, hreplay⟩ := openPayment_returned hopen
      obtain ⟨-, p, payment, -, rfl⟩ := replay_eq_ok hreplay
      exact (hreturned rfl (.replayed h.stored hgiven hfind hreplay)).elim
  | @returns now creation i outcome db hcreation hi hrun =>
    rcases acceptPayment_cases hrun with ⟨requestId, existing, added, hfind, hreplay, -⟩ |
      ⟨amount, merchantId, opened, hopens, -⟩
    · obtain ⟨-, p, payment, -, rfl⟩ := replay_eq_ok hreplay
      exact (hreturned rfl (.replayed h.stored rfl hfind hreplay)).elim
    · exact (hopens.unstored hmem haccount (Option.some.inj hkey)).elim
  | raises hrun => exact ⟨⟨_, rfl⟩, rfl⟩

/-- A digest is never empty. Under a key of an account there is one request, one payment, one
approval and one reservation at most, whatever calls carry it and however they interleave; a call
that is answered with a payment is answered with that one, which was made for what it asks; and a
call with another fingerprint than the stored one is refused and changes nothing, as does every
step of a creation before its answer. -/
theorem run_idempotent {env : Env} (hdigest : ∀ json, env.digest json ≠ "") {s : State}
    (hs : s.Occurs env) :
    (∀ accountId key as,
      Db.OneUnder accountId key s.db (Machine.run (State.step env) s as).db) ∧
    (∀ x ∈ s.answers, ∀ p status detail, x.result = .ok (.returned p status detail) →
      x.Names s.db p) ∧
    (∀ a x, (s.step env a).answers = s.answers ++ [x] → ∀ request ∈ s.db.paymentRequests.rows,
      request.accountId = x.accountId → some request.idempotencyKey = x.idempotencyKey →
      request.requestFingerprint ≠ some x.fingerprint →
      (∃ e, x.result = .error e) ∧ (s.step env a).db = s.db) ∧
    ∀ a : Action, a.creates = true → (s.step env a).answers = s.answers →
      (s.step env a).db = s.db := by
  refine ⟨hs.oneUnder, hs.names hdigest, fun a x hadded request hmem haccount hkey hdiffers => ?_,
    fun a hcreates hsame => ?_⟩
  · rcases State.step_answered env s a with ⟨hnone, -⟩ | ⟨y, hadded', hanswers⟩
    · rw [hnone] at hadded
      exact absurd (List.self_eq_append_right.mp hadded) (List.cons_ne_nil x [])
    · obtain rfl : x = y := by
        rw [hadded] at hadded'
        exact List.singleton_inj.mp (List.append_cancel_left hadded')
      exact hanswers.refused (hs.fingerprinted hdigest) hmem haccount hkey hdiffers
  · rcases State.step_answered env s a with ⟨-, hkept⟩ | ⟨y, hadded, -⟩
    · exact hkept hcreates
    · rw [hsame] at hadded
      exact absurd (List.self_eq_append_right.mp hadded) (List.cons_ne_nil y [])

lemma Env.sample_digest_ne (json : Json) : Env.sample.digest json ≠ "" := by
  show json.dumps ≠ ""
  cases json with
  | null => decide
  | number value =>
    rw [Json.dumps]
    cases value with
    | ofNat n => exact Nat.repr_ne_empty
    | negSucc n =>
      intro hempty
      have hlength := congrArg String.length hempty
      simp [toString, Int.repr] at hlength
  | text value | array items | object fields =>
    intro hempty
    have hlength := congrArg String.length hempty
    simp [Json.dumps] at hlength

/-- Two calls under one key: the second waits for the first, and is answered with its payment. -/
def State.raced : State :=
  Machine.run (step Env.sample) (.start (.sample [.sample]))
    [.openPayment 0 (.sample "key" 60), .openPayment 0 (.sample "key" 60), .insertRequest 0 0,
      .insertRequest 1 0, .commitPayment 0 0, .insertRequest 1 0]

theorem run_idempotent_raced :
    State.raced.answers.map (·.result.isOk) = [true, true] ∧
      ∀ x ∈ State.raced.answers, ∀ p status detail, x.result = .ok (.returned p status detail) →
        x.Names State.raced.db p := by
  have hoccurs : State.raced.Occurs Env.sample := ⟨_, _, Db.sample_fresh _, rfl⟩
  exact ⟨by decide +kernel, (run_idempotent Env.sample_digest_ne hoccurs).2.1⟩

end AgentPay
