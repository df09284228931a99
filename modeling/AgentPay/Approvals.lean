import AgentPay.Controls
import AgentPay.Support.Quoted

/-!
# Approvals

An approval is opened for a payment that waits, and is decided once, in time, and for the intent it
was opened for. Its row is not touched again, and it brings one reservation and one event at most.
-/

namespace AgentPay

open Support

/-! ### What the digest tells apart -/

/-- The digits of a stored amount, with a zero before the point where there is none. -/
def Amount.digits (a : Amount) : List Char :=
  List.replicate (5 - (toString a.units).length) '0' ++ (toString a.units).toList

lemma Amount.digits_injective : Function.Injective Amount.digits := by
  have hvalue (a : Amount) : Nat.ofDigitChars 10 a.digits 0 = a.units := by
    rw [digits, Nat.ofDigitChars_append, Nat.ofDigitChars_replicate_zero, mul_zero,
      ofDigitChars_toString]
  intro a b h
  ext
  rw [← hvalue a, h, hvalue]

lemma Amount.length_digits (a : Amount) : 5 ≤ a.digits.length := by
  rw [digits, List.length_append, List.length_replicate, String.length_toList]
  omega

/-- A stored amount is written with four places. -/
lemma Amount.toList_text (a : Amount) : a.toDecimal.text.toList =
    a.digits.take (a.digits.length - 4) ++ '.' :: a.digits.drop (a.digits.length - 4) := by
  have hpadded : (String.ofList (List.replicate (4 + 1 - (toString a.units).length) '0') ++
      toString a.units).toList = a.digits := by
    simp [digits]
  have hlength := congrArg List.length hpadded
  rw [String.length_toList] at hlength
  have hsign : ¬ (a.units : ℤ) < 0 := by omega
  simp only [Decimal.text, toDecimal, Int.natAbs_natCast, hpadded, hlength, hsign, if_false]
  simp

/-- Stored amounts are told apart by their texts. -/
lemma Amount.text_injective : Function.Injective fun a : Amount => a.toDecimal.text := by
  intro a b h
  have htext := congrArg String.toList h
  simp only [toList_text] at htext
  have hlast (a : Amount) : (a.digits.drop (a.digits.length - 4)).length = 4 := by
    have := a.length_digits
    rw [List.length_drop]
    omega
  obtain ⟨hwhole, hplaces⟩ := List.append_inj' htext (by simp [hlast])
  obtain ⟨-, hplaces⟩ := List.cons.inj hplaces
  apply digits_injective
  rw [← List.take_append_drop (a.digits.length - 4) a.digits, hwhole, hplaces,
    List.take_append_drop]

lemma Json.ofText?_injective : Function.Injective Json.ofText? := by
  rintro (_ | s) (_ | t) h <;> simp_all [Json.ofText?]

/-- What `create_approval` and `approve_payment` bind: a binding with its currency in capitals. -/
structure Intent where
  paymentRequestId : RequestId
  accountId : String
  agentId : String
  amount : Amount
  currency : String
  merchantReference : Option String
  policyVersionId : Option PolicyVersionId
  authorizationEvidenceId : Option EvidenceId
  deriving DecidableEq, Repr

/-- The intent of a request as its row stands. -/
def Db.intent (db : Db) (i : RequestId) (request : PaymentRequest) : Intent where
  paymentRequestId := i
  accountId := request.accountId
  agentId := request.agentId
  amount := request.amount
  currency := normCurrency request.currency
  merchantReference := ControlRepository.merchantDomain db request
  policyVersionId := request.policyVersionId
  authorizationEvidenceId := request.authorizationEvidenceId

/-- Requests with one payload have one intent. -/
lemma Db.intent_eq_of_payload {db db' : Db} {i i' : RequestId} {request request' : PaymentRequest}
    (h : (ControlRepository.bindingOf db i request).payload =
      (ControlRepository.bindingOf db' i' request').payload) :
    db.intent i request = db'.intent i' request' := by
  simp only [ApprovalBinding.payload, ControlRepository.bindingOf, Json.object.injEq,
    List.cons.injEq, Prod.mk.injEq, Json.text.injEq, true_and, and_true] at h
  obtain ⟨haccount, hagent, hamount, hevidence, hcurrency, hmerchant, hrequest, hversion⟩ := h
  have hids := Option.map_injective toString_injective
  simp only [intent, Intent.mk.injEq]
  exact ⟨toString_injective hrequest, haccount, hagent, Amount.text_injective hamount, hcurrency,
    Json.ofText?_injective hmerchant, hids (Json.ofText?_injective hversion),
    hids (Json.ofText?_injective hevidence)⟩

/-! ### The rows of approvals -/

/-- The columns of an approval that no decision writes. -/
def Approval.terms (a : Approval) : RequestId × Option Time × String :=
  (a.paymentRequestId, a.expiresAt, a.intentDigest)

/-- The row that is denied. -/
lemma denyPayment_rows {env : Env} {db db' : Db} {id : ApprovalId}
    {reason authorization : Option String} {x : PaymentId × PaymentStatus}
    (hrun : denyPayment env db id reason authorization = .ok (x, db')) :
    ∃ actor approval, db.approvals[id]? = some approval ∧ approval.status = .pending ∧
      db'.approvals =
        db.approvals.modify id (ControlRepository.decidedApproval .denied actor reason) ∧
      db'.paymentRequests = db.paymentRequests ∧ db'.merchants = db.merchants ∧
      db'.budgetReservations = db.budgetReservations ∧
      (∀ p, (db'.payments.get? p).map Payment.terms = (db.payments.get? p).map Payment.terms) ∧
      ∃ p, db'.outboxEvents = db.outboxEvents ++ [.paymentFailed p (.userDenied id)] := by
  obtain ⟨p, status⟩ := x
  obtain ⟨actor, approval, request, payment, happroval, hpending, -, rfl⟩ :=
    denyPayment_eq_ok hrun
  have hupdate := Executes.updateStatus (ControlRepository.setApproval db id .denied actor reason)
    p .failed none
  exact ⟨actor, approval, happroval, hpending, rfl, rfl, rfl, rfl, hupdate.payments, p, rfl⟩

/-- What a step may make of the row of an approval. -/
inductive Approval.Step (a : Approval) : Approval → Prop where
  | kept : Step a a
  | decided {status actor reason} (hpending : a.status = .pending)
      (hstatus : status = .approved ∨ status = .denied) :
      Step a (ControlRepository.decidedApproval status actor reason a)

/-- An approval is kept by a step, or decided. -/
lemma State.step_approval {env : Env} {s : State} {id : ApprovalId} {a : Approval}
    (ha : s.db.approvals[id]? = some a) (c : Action) :
    ∃ a', (s.step env c).db.approvals[id]? = some a' ∧ a.Step a' := by
  have hwrites := step_writes env s c
  generalize (s.step env c).db = db at hwrites
  cases hwrites with
  | nothing | configures | replays => exact ⟨a, ha, .kept⟩
  | executes _ hexecutes | finalizes _ hexecutes =>
    have happrovals : db.approvals = s.db.approvals :=
      congrArg Decisions.approvals hexecutes.decisions
    exact ⟨a, happrovals ▸ ha, .kept⟩
  | accepts hcreation hopens hdecides =>
    obtain ⟨v, -, hcommits, -⟩ := hopens.decided hdecides
    refine ⟨a, ?_, .kept⟩
    rw [hcommits.approvals, List.getElem?_append_left (List.getElem?_eq_some_iff.mp ha).1, ha]
  | @approves now id' reason authorization x _ hrun =>
    obtain ⟨p, status⟩ := x
    obtain ⟨actor, approval, request, payment, budgetId, budget, happroves⟩ :=
      approvePayment_rows hrun
    rw [happroves.approval_get?]
    split_ifs with hid
    · subst hid
      obtain rfl := Option.some.inj (happroves.approvals.symm.trans ha)
      exact ⟨_, rfl, .decided happroves.pending (.inl rfl)⟩
    · exact ⟨a, ha, .kept⟩
  | @denies id' reason authorization x _ hrun =>
    obtain ⟨actor, approval, happroval, hpending, hrows, -⟩ := denyPayment_rows hrun
    rw [hrows, getElem?_decided happroval]
    split_ifs with hid
    · subst hid
      obtain rfl := Option.some.inj (happroval.symm.trans ha)
      exact ⟨_, rfl, .decided hpending (.inr rfl)⟩
    · exact ⟨a, ha, .kept⟩

/-- An approval is opened by the creation of a payment that waits. -/
lemma State.step_opens {env : Env} {s : State} {c : Action} {id : ApprovalId} {a : Approval}
    (hnone : s.db.approvals[id]? = none) (ha : (s.step env c).db.approvals[id]? = some a) :
    ∃ now i versionId budgetId amount merchantId,
      Verdict.Commits env now s.db i (.waits versionId budgetId) amount merchantId
        (s.step env c).db ∧
      a ∈ Verdict.approvals s.db i amount merchantId env now (s.step env c).db
        (.waits versionId budgetId) := by
  have hwrites := step_writes env s c
  generalize (s.step env c).db = db at hwrites ha ⊢
  have hkept (h : db.approvals[id]? = s.db.approvals[id]?) : False := by
    rw [h, hnone] at ha
    cases ha
  cases hwrites with
  | nothing | configures | replays => exact (hkept rfl).elim
  | executes _ hexecutes | finalizes _ hexecutes =>
    exact (hkept (congrArg (·.approvals[id]?) hexecutes.decisions)).elim
  | @accepts now _ i amount merchantId _ _ _ _ hopens hdecides =>
    obtain ⟨v, -, hcommits, -⟩ := hopens.decided hdecides
    have hadded := hcommits.approvals
    cases v with
    | waits versionId budgetId =>
      refine ⟨now, i, versionId, budgetId, amount, merchantId, hcommits, ?_⟩
      rw [hadded, List.getElem?_append_right (List.getElem?_eq_none_iff.mp hnone)] at ha
      exact List.mem_of_getElem? ha
    | _ =>
      exact (hkept (congrArg (·[id]?) (hadded.trans (List.append_nil _)))).elim
  | @approves now id' reason authorization x _ hrun =>
    obtain ⟨p, status⟩ := x
    obtain ⟨actor, approval, request, payment, budgetId, budget, happroves⟩ :=
      approvePayment_rows hrun
    refine (hkept ((happroves.approval_get? id).trans (if_neg ?_))).elim
    rintro rfl
    cases hnone.symm.trans happroves.approvals
  | @denies id' reason authorization x _ hrun =>
    obtain ⟨actor, approval, happroval, hpending, hrows, -⟩ := denyPayment_rows hrun
    refine (hkept (hrows ▸ (getElem?_decided happroval ..).trans (if_neg ?_))).elim
    rintro rfl
    cases hnone.symm.trans happroval

/-! ### What approvals bring -/

/-- The event starts payment `p`. -/
def OutboxEvent.starts (p : PaymentId) : OutboxEvent → Bool
  | .paymentStarted q _ => q = p
  | _                   => false

/-- The number of `PaymentStarted` events of a payment. -/
def Db.started (db : Db) (p : PaymentId) : ℕ := db.outboxEvents.countP (·.starts p)

lemma Db.started_append {db db' : Db} {events : List OutboxEvent}
    (h : db'.outboxEvents = db.outboxEvents ++ events) (p : PaymentId) :
    db'.started p = db.started p + events.countP (·.starts p) := by
  rw [started, h, List.countP_append]
  rfl

/-- Every approval has a payment of its own, which has no reservation unless it is approved, and a
payment is started once when it is reserved for. -/
structure Db.Deliberate (db : Db) : Prop where
  distinct : (db.approvals.map (·.paymentRequestId)).Nodup
  owned : ∀ a ∈ db.approvals, ∃ p payment, db.payments.get? p = some payment ∧
    payment.paymentRequestId = a.paymentRequestId
  unreserved : ∀ a ∈ db.approvals, a.status ≠ .approved →
    ∀ row ∈ db.budgetReservations.rows, row.paymentRequestId ≠ a.paymentRequestId
  started : ∀ p, db.started p = 0 ∨ db.started p = 1 ∧ db.Reserved p

/-- A reservation row is found again where the terms are kept. -/
lemma exists_reservation {t t' : Table BudgetReservation BudgetReservation.key}
    (h : ∀ r, (t'.get? r).map BudgetReservation.terms = (t.get? r).map BudgetReservation.terms)
    {row : BudgetReservation} (hrow : row ∈ t.rows) :
    ∃ row' ∈ t'.rows, row'.paymentRequestId = row.paymentRequestId := by
  obtain ⟨r, hr⟩ := List.mem_iff_getElem?.mp hrow
  obtain ⟨row', hrow', hterms⟩ := exists_of_map_eq (h r) hr
  simp only [BudgetReservation.terms, Prod.mk.injEq] at hterms
  exact ⟨row', Table.mem_of_get? hrow', hterms.2.1⟩

lemma Db.Reserved.of_terms {db db' : Db} {p : PaymentId} (h : db.Reserved p)
    (hpayments : ∀ p, (db'.payments.get? p).map Payment.terms =
      (db.payments.get? p).map Payment.terms)
    (hreservations : ∀ row ∈ db.budgetReservations.rows,
      ∃ row' ∈ db'.budgetReservations.rows, row'.paymentRequestId = row.paymentRequestId) :
    db'.Reserved p := by
  obtain ⟨payment, row, hp, hrow, hrequest⟩ := h
  obtain ⟨payment', hp', hterms⟩ := exists_of_map_eq (hpayments p) hp
  obtain ⟨row', hrow', hrequest'⟩ := hreservations row hrow
  simp only [Payment.terms, Prod.mk.injEq] at hterms
  exact ⟨payment', row', hp', hrow', by rw [hrequest', hrequest, hterms.1]⟩

namespace Db.Deliberate

variable {db db' : Db}

/-- What is kept outside the approvals, the terms of payments and reservations, and the outbox. -/
lemma of_terms (h : db.Deliberate) (happrovals : db'.approvals = db.approvals)
    (hpayments : ∀ p, (db'.payments.get? p).map Payment.terms =
      (db.payments.get? p).map Payment.terms)
    (hreservations : ∀ r, (db'.budgetReservations.get? r).map BudgetReservation.terms =
      (db.budgetReservations.get? r).map BudgetReservation.terms)
    (hstarted : ∀ p, db'.started p = db.started p) : db'.Deliberate where
  distinct := happrovals ▸ h.distinct
  owned a ha := by
    obtain ⟨p, payment, hp, hrequest⟩ := h.owned a (happrovals ▸ ha)
    obtain ⟨payment', hp', hterms⟩ := exists_of_map_eq (hpayments p) hp
    simp only [Payment.terms, Prod.mk.injEq] at hterms
    exact ⟨p, payment', hp', hterms.1.trans hrequest⟩
  unreserved a ha hstatus row hrow := by
    obtain ⟨row', hrow', hrequest⟩ := exists_reservation (fun r => (hreservations r).symm) hrow
    rw [← hrequest]
    exact h.unreserved a (happrovals ▸ ha) hstatus row' hrow'
  started p := by
    rw [hstarted]
    obtain hnone | ⟨hone, hres⟩ := h.started p
    · exact .inl hnone
    · have hkept := hres.of_terms hpayments fun _ hrow => exists_reservation hreservations hrow
      exact .inr ⟨hone, hkept⟩

/-- A creation opens an approval, or starts the payment, or neither. -/
lemma commits {env : Env} {now : Time} {i : Intake} {v : Verdict} {amount : Amount}
    {merchantId : Option MerchantId} (h : db.Deliberate) (hsound : db.Sound)
    (hcommits : v.Commits env now db i amount merchantId db') : db'.Deliberate := by
  have hnew : db'.payments.get? db.payments.nextId = some (v.payment db i amount) :=
    (Table.get?_of_rows_append hcommits.payments _).trans (if_pos rfl)
  have hold {p : PaymentId} {payment : Payment} (hp : db.payments.get? p = some payment) :
      db'.payments.get? p = some payment :=
    (Table.get?_append_lt hcommits.payments (Table.get?_lt hp)).trans hp
  have hopened : ∀ a ∈ v.approvals db i amount merchantId env now db',
      a.paymentRequestId = db.paymentRequests.nextId ∧ v.reservations db i amount = [] := by
    intro a ha
    cases v with
    | waits =>
      obtain rfl := List.mem_singleton.mp ha
      exact ⟨rfl, rfl⟩
    | _ => cases ha
  have hadded : ∀ row ∈ v.reservations db i amount,
      row.paymentRequestId = db.paymentRequests.nextId := by
    intro row hrow
    cases v with
    | starts =>
      obtain rfl := List.mem_singleton.mp hrow
      rfl
    | _ => cases hrow
  have hrows : ∀ row ∈ db.budgetReservations.rows,
      row.paymentRequestId < db.paymentRequests.nextId := by
    intro row hrow
    obtain ⟨r, hr⟩ := List.mem_iff_getElem?.mp hrow
    obtain ⟨request, hrequest, -⟩ := hsound.linked r row hr
    exact Table.get?_lt hrequest
  constructor
  · rw [hcommits.approvals, List.map_append, List.nodup_append]
    refine ⟨h.distinct, ?_, ?_⟩
    · cases v <;> simp [Verdict.approvals]
    · intro j hj j' hj'
      obtain ⟨a, ha, rfl⟩ := List.mem_map.mp hj
      obtain ⟨a', ha', rfl⟩ := List.mem_map.mp hj'
      rw [(hopened a' ha').1]
      exact (hsound.approval a ha).ne
  · intro a ha
    rw [hcommits.approvals] at ha
    rcases List.mem_append.mp ha with ha | ha
    · obtain ⟨p, payment, hp, hrequest⟩ := h.owned a ha
      exact ⟨p, payment, hold hp, hrequest⟩
    · exact ⟨_, _, hnew, (hopened a ha).1.symm⟩
  · intro a ha hstatus row hrow
    rw [hcommits.approvals] at ha
    rw [hcommits.reservations] at hrow
    rcases List.mem_append.mp ha with ha | ha
    · rcases List.mem_append.mp hrow with hrow | hrow
      · exact h.unreserved a ha hstatus row hrow
      · rw [hadded row hrow]
        exact (hsound.approval a ha).ne'
    · obtain ⟨hrequest, hnone⟩ := hopened a ha
      rw [hnone, List.append_nil] at hrow
      rw [hrequest]
      exact (hrows row hrow).ne
  · intro p
    rw [Db.started_append hcommits.outbox]
    by_cases hp : p = db.payments.nextId
    · have hzero : db.started p = 0 := by
        rcases h.started p with hzero | ⟨-, payment, -, hget, -⟩
        · exact hzero
        · exact absurd hp (Table.get?_lt hget).ne
      subst hp
      rw [hzero, Nat.zero_add]
      cases v with
      | starts notify versionId budgetId =>
        refine .inr ⟨by cases notify <;> simp [Verdict.events, OutboxEvent.starts], _,
          ⟨budgetId, db.paymentRequests.nextId, amount, i.request.currency, .reserved⟩, hnew, ?_,
          rfl⟩
        rw [hcommits.reservations]
        exact List.mem_append_right _ (List.mem_singleton_self _)
      | _ => exact .inl (by simp [Verdict.events, OutboxEvent.starts])
    · have hnone : (v.events db i).countP (·.starts p) = 0 := by
        cases v with
        | starts notify versionId budgetId =>
          cases notify <;> simp [Verdict.events, OutboxEvent.starts, Ne.symm hp]
        | _ => simp [Verdict.events, OutboxEvent.starts]
      rw [hnone, Nat.add_zero]
      obtain hzero | ⟨hone, payment, row, hget, hrow, hrequest⟩ := h.started p
      · exact .inl hzero
      · refine .inr ⟨hone, payment, row, hold hget, ?_, hrequest⟩
        rw [hcommits.reservations]
        exact List.mem_append_left _ hrow

/-- Another request than that of an approval is the request of another approval. -/
lemma eq_of_request (h : db.Deliberate) {id id' : ApprovalId} {a a' : Approval}
    (ha : db.approvals[id]? = some a) (ha' : db.approvals[id']? = some a')
    (hrequest : a.paymentRequestId = a'.paymentRequestId) : id = id' := by
  have hget (id : ApprovalId) : (db.approvals.map (·.paymentRequestId))[id]? =
      (db.approvals[id]?).map (·.paymentRequestId) := List.getElem?_map
  refine (List.getElem?_inj ?_ h.distinct).mp ?_
  · rw [List.length_map]
    exact (List.getElem?_eq_some_iff.mp ha).1
  · rw [hget, hget, ha, ha', Option.map_some, Option.map_some, hrequest]

/-- Both decisions keep the request that each row of `approvals` names. -/
lemma map_decided (approvals : List Approval) (id : ApprovalId) (status : ApprovalStatus)
    (actor : String) (reason : Option String) :
    (approvals.modify id (ControlRepository.decidedApproval status actor reason)).map
      (·.paymentRequestId) = approvals.map (·.paymentRequestId) :=
  map_modify_of_eq (f := ControlRepository.decidedApproval status actor reason) fun _ => rfl

/-- An approval grants one reservation, with one event. -/
lemma approves {env : Env} {now : Time} {id : ApprovalId} {reason : Option String} {actor : String}
    {approval : Approval} {request : PaymentRequest} {payment : Payment} {budgetId : BudgetId}
    {budget : Budget} {p : PaymentId} (h : db.Deliberate)
    (happroves : Approves env now db id reason actor approval request payment budgetId budget p
      db') : db'.Deliberate := by
  have hrows : db'.approvals =
      db.approvals.modify id (ControlRepository.decidedApproval .approved actor reason) :=
    congrArg Db.approvals happroves.rest
  have hmem : approval ∈ db.approvals := List.mem_of_getElem? happroves.approvals
  have hfree := h.unreserved approval hmem (by simp [happroves.pending])
  constructor
  · rw [hrows, map_decided]
    exact h.distinct
  · intro a ha
    obtain ⟨a₀, ha₀, hrequest⟩ : ∃ a₀ ∈ db.approvals,
        a.paymentRequestId = a₀.paymentRequestId := by
      rw [hrows] at ha
      obtain hmem | ⟨a₀, ha₀, rfl⟩ := mem_modify ha
      · exact ⟨a, hmem, rfl⟩
      · exact ⟨a₀, List.mem_of_getElem? ha₀, rfl⟩
    obtain ⟨q, payment₀, hq, hrequest₀⟩ := h.owned a₀ ha₀
    obtain ⟨payment', hq', hterms⟩ := exists_of_map_eq (happroves.payment_terms q) hq
    simp only [Payment.terms, Prod.mk.injEq] at hterms
    exact ⟨q, payment', hq', by rw [hterms.1, hrequest₀, hrequest]⟩
  · intro a ha hstatus row hrow
    obtain ⟨id', ha⟩ := List.mem_iff_getElem?.mp ha
    rw [happroves.approval_get?] at ha
    split_ifs at ha with hid
    · obtain rfl := Option.some.inj ha
      exact absurd rfl hstatus
    · rw [happroves.reservations] at hrow
      rcases List.mem_append.mp hrow with hrow | hrow
      · exact h.unreserved a (List.mem_of_getElem? ha) hstatus row hrow
      · obtain rfl := List.mem_singleton.mp hrow
        intro hrequest
        exact hid (h.eq_of_request happroves.approvals ha hrequest)
  · intro q
    have houtbox : db'.outboxEvents = db.outboxEvents ++
        [.paymentStarted p db.budgetReservations.nextId, .paymentApproved p id actor] :=
      congrArg Db.outboxEvents happroves.rest
    rw [Db.started_append houtbox]
    by_cases hq : q = p
    · subst hq
      have hzero : db.started q = 0 := by
        rcases h.started q with hzero | ⟨-, payment', row, hget, hrow, hrequest⟩
        · exact hzero
        · obtain rfl := Option.some.inj (hget.symm.trans happroves.payments)
          exact absurd (hrequest.trans happroves.bound) (hfree row hrow)
      refine .inr ⟨by simp [hzero, OutboxEvent.starts], _,
        ⟨budgetId, approval.paymentRequestId, request.amount, budget.currency, .reserved⟩,
        (happroves.payment_get? q).trans (if_pos rfl), ?_, happroves.bound.symm⟩
      rw [happroves.reservations]
      exact List.mem_append_right _ (List.mem_singleton_self _)
    · have hnone : [OutboxEvent.paymentStarted p db.budgetReservations.nextId,
          .paymentApproved p id actor].countP (·.starts q) = 0 := by
        simp [OutboxEvent.starts, Ne.symm hq]
      rw [hnone, Nat.add_zero]
      obtain hzero | ⟨hone, hres⟩ := h.started q
      · exact .inl hzero
      · refine .inr ⟨hone, hres.of_terms happroves.payment_terms fun row hrow => ⟨row, ?_, rfl⟩⟩
        rw [happroves.reservations]
        exact List.mem_append_left _ hrow

/-- A denial grants nothing. -/
lemma denies {env : Env} {id : ApprovalId} {reason authorization : Option String}
    {x : PaymentId × PaymentStatus} (h : db.Deliberate)
    (hrun : denyPayment env db id reason authorization = .ok (x, db')) : db'.Deliberate := by
  obtain ⟨actor, approval, happroval, hpending, hrows, -, -, hreservations, hpayments, p,
    houtbox⟩ := denyPayment_rows hrun
  have hmem {a : Approval} (ha : a ∈ db'.approvals) : ∃ a₀ ∈ db.approvals,
      a.paymentRequestId = a₀.paymentRequestId ∧
        (a.status ≠ .approved → a₀.status ≠ .approved) := by
    rw [hrows] at ha
    obtain ⟨id', ha⟩ := List.mem_iff_getElem?.mp ha
    rw [getElem?_decided happroval] at ha
    split_ifs at ha with hid
    · obtain rfl := Option.some.inj ha
      exact ⟨approval, List.mem_of_getElem? happroval, rfl, fun _ => by simp [hpending]⟩
    · exact ⟨a, List.mem_of_getElem? ha, rfl, fun h => h⟩
  have hstarted (q : PaymentId) : db'.started q = db.started q := by
    rw [Db.started_append houtbox]
    rfl
  constructor
  · rw [hrows, map_decided]
    exact h.distinct
  · intro a ha
    obtain ⟨a₀, ha₀, hrequest, -⟩ := hmem ha
    obtain ⟨q, payment, hq, hrequest₀⟩ := h.owned a₀ ha₀
    obtain ⟨payment', hq', hterms⟩ := exists_of_map_eq (hpayments q) hq
    simp only [Payment.terms, Prod.mk.injEq] at hterms
    exact ⟨q, payment', hq', by rw [hterms.1, hrequest₀, hrequest]⟩
  · intro a ha hstatus row hrow
    obtain ⟨a₀, ha₀, hrequest, hstatus₀⟩ := hmem ha
    rw [hrequest]
    exact h.unreserved a₀ ha₀ (hstatus₀ hstatus) row (hreservations ▸ hrow)
  · intro q
    rw [hstarted]
    obtain hzero | ⟨hone, hres⟩ := h.started q
    · exact .inl hzero
    · exact .inr ⟨hone, hres.of_terms hpayments fun row hrow => ⟨row, hreservations ▸ hrow, rfl⟩⟩

/-- A step of the system keeps it. -/
lemma step {env : Env} {s : State} (h : s.db.Deliberate) (hsound : s.db.Sound) (a : Action) :
    (s.step env a).db.Deliberate := by
  have hwrites := State.step_writes env s a
  generalize (s.step env a).db = db at hwrites
  cases hwrites with
  | nothing | configures | replays => exact ⟨h.distinct, h.owned, h.unreserved, h.started⟩
  | executes _ hexecutes =>
    refine h.of_terms (congrArg Decisions.approvals hexecutes.decisions) hexecutes.payments
      hexecutes.reservations fun p => ?_
    rw [Db.started_append hexecutes.outbox]
    rfl
  | @finalizes w c answer db hw hexecutes =>
    refine h.of_terms (congrArg Decisions.approvals hexecutes.decisions) hexecutes.payments
      hexecutes.reservations fun p => ?_
    rw [Db.started_append hexecutes.outbox]
    cases answer.outcome <;> rfl
  | accepts hcreation hopens hdecides =>
    obtain ⟨v, -, hcommits, -⟩ := hopens.decided hdecides
    exact h.commits hsound hcommits
  | @approves now id reason authorization x db hrun =>
    obtain ⟨p, status⟩ := x
    obtain ⟨actor, approval, request, payment, budgetId, budget, happroves⟩ :=
      approvePayment_rows hrun
    exact h.approves happroves
  | denies hrun => exact h.denies hrun

end Db.Deliberate

/-- Every state that occurs is deliberate. -/
theorem State.Occurs.deliberate {env : Env} {s : State} (h : s.Occurs env) : s.db.Deliberate := by
  refine h.invariant (I := fun s => s.db.Deliberate) (fun db hfresh => ?_) fun s a hs hdeliberate =>
    hdeliberate.step hs.reachable.invariant.sound a
  have happrovals : (start db).db.approvals = [] := hfresh.approvals
  have houtbox : (start db).db.outboxEvents = [] := hfresh.outboxEvents
  constructor
  · rw [happrovals]
    exact List.nodup_nil
  · rw [happrovals]
    exact fun a ha => absurd ha List.not_mem_nil
  · rw [happrovals]
    exact fun a ha => absurd ha List.not_mem_nil
  · intro p
    refine .inl ?_
    rw [Db.started, houtbox]
    rfl

/-! ### An approval and its payment -/

/-- A payment that waits has an approval that is pending. -/
def PaymentView.Awaited (v : PaymentView) : Prop := v.status = .approvalRequired → 0 < v.pending

/-- No operation makes a payment wait. -/
lemma PaymentStep.awaited {op : PaymentOp} {v v' : PaymentView} (h : PaymentStep op v v') :
    v'.Awaited := by
  intro hwaits
  cases h with
  | refundSucceeded h =>
    simp only [PaymentView.postRefund, PaymentView.putRefund] at hwaits
    split_ifs at hwaits
  | _ => cases hwaits

lemma PaymentView.Created.awaited {v : PaymentView} (h : v.Created) : v.Awaited := by
  intro hwaits
  rcases h.state with ⟨hstatus, -⟩ | ⟨-, -, hpending⟩ | ⟨hstatus, -⟩
  · cases hstatus.symm.trans hwaits
  · omega
  · cases hstatus.symm.trans hwaits

lemma State.Occurs.awaited {env : Env} {s : State} (h : s.Occurs env) {p : PaymentId}
    {v : PaymentView} (hv : view s.db p = some v) : v.Awaited := by
  have hviews : s.Views PaymentView.Awaited := by
    refine h.invariant (I := Views PaymentView.Awaited) (fun db hfresh => ?_) fun s a _ hs => ?_
    · refine ⟨hfresh.blank.invariant, fun p v hv => ?_⟩
      obtain ⟨payment, request, hp, -⟩ := view_eq_some.mp hv
      cases (Table.get?_of_rows_nil hfresh.payments p).symm.trans hp
    · exact step_views (C := fun _ _ => True) (fun _ hcreated => hcreated.awaited)
        (fun _ _ _ _ _ _ hstep => hstep.awaited) hs fun _ _ _ _ => trivial
  exact hviews.2 p v hv

/-- An approval is pending exactly while its payment waits. -/
lemma State.Occurs.pending_iff {env : Env} {s : State} (h : s.Occurs env) {a : Approval}
    (ha : a ∈ s.db.approvals) {p : PaymentId} {payment : Payment}
    (hp : s.db.payments.get? p = some payment)
    (hrequest : payment.paymentRequestId = a.paymentRequestId) :
    a.status = .pending ↔ payment.status = .approvalRequired := by
  have hinvariant := h.reachable.invariant
  obtain ⟨v, hv⟩ := hinvariant.sound.view_some hp
  have hpending := (view_tables hv).2.1
  obtain ⟨payment', request, hp', -, rfl⟩ := view_eq_some.mp hv
  obtain rfl := Option.some.inj (hp.symm.trans hp')
  have hcount : 0 < (viewOf s.db p payment request).pending ↔ ∃ a' ∈ s.db.approvals,
      a'.paymentRequestId = a.paymentRequestId ∧ a'.status = .pending := by
    rw [hpending, pendingApprovals, List.countP_pos_iff]
    simp only [Bool.and_eq_true, decide_eq_true_eq]
    rw [show (viewOf s.db p payment request).requestId = a.paymentRequestId from hrequest]
  constructor
  · intro hstatus
    exact ((hinvariant.regular p _ hv).waiting (hcount.mpr ⟨a, ha, rfl, hstatus⟩)).1
  · intro hwaits
    obtain ⟨a', ha', hsame, hstatus⟩ := hcount.mp (h.awaited hv hwaits)
    obtain rfl := List.inj_on_of_nodup_map h.deliberate.distinct ha' ha hsame
    exact hstatus

/-- A request has one reservation at most. -/
lemma Db.Sound.reservation_unique {db : Db} (h : db.Sound) {r r' : ReservationId}
    {row row' : BudgetReservation} (hr : db.budgetReservations.get? r = some row)
    (hr' : db.budgetReservations.get? r' = some row')
    (hsame : row.paymentRequestId = row'.paymentRequestId) : r = r' := by
  obtain ⟨request, hrequest, hlink⟩ := h.linked r row hr
  obtain ⟨request', hrequest', hlink'⟩ := h.linked r' row' hr'
  rw [← hsame, hrequest] at hrequest'
  obtain rfl := Option.some.inj hrequest'
  exact Option.some.inj (hlink.symm.trans hlink')

/-- How an approval stands with its payment, the reservations and the events. -/
structure Approval.Stands (db : Db) (a : Approval) : Prop where
  payment : ∃ p payment, db.payments.get? p = some payment ∧
    payment.paymentRequestId = a.paymentRequestId ∧
    (a.status = .pending ↔ payment.status = .approvalRequired) ∧ db.started p ≤ 1
  reserved : ∀ r r' row row', db.budgetReservations.get? r = some row →
    db.budgetReservations.get? r' = some row' → row.paymentRequestId = a.paymentRequestId →
    row'.paymentRequestId = a.paymentRequestId → r = r'
  denied : a.status = .denied →
    ∀ row ∈ db.budgetReservations.rows, row.paymentRequestId ≠ a.paymentRequestId

lemma State.Occurs.stands {env : Env} {s : State} (h : s.Occurs env) {a : Approval}
    (ha : a ∈ s.db.approvals) : a.Stands s.db := by
  have hdeliberate := h.deliberate
  refine ⟨?_, fun r r' row row' hr hr' hrow hrow' => ?_, fun hdenied => ?_⟩
  · obtain ⟨p, payment, hp, hrequest⟩ := hdeliberate.owned a ha
    refine ⟨p, payment, hp, hrequest, h.pending_iff ha hp hrequest, ?_⟩
    rcases hdeliberate.started p with hzero | ⟨hone, -⟩ <;> omega
  · exact h.reachable.invariant.sound.reservation_unique hr hr' (hrow.trans hrow'.symm)
  · exact hdeliberate.unreserved a ha (by simp [hdenied])

/-! ### Runs -/

/-- A run keeps the terms of an approval, and its whole row once it is decided. -/
lemma State.run_approval_kept {env : Env} {s : State} {id : ApprovalId} {a : Approval}
    (ha : s.db.approvals[id]? = some a) (as : List Action) :
    ∃ a', (Machine.run (step env) s as).db.approvals[id]? = some a' ∧ a'.terms = a.terms ∧
      (a.status ≠ .pending → a' = a) := by
  refine Machine.run_invariant (I := fun s : State => ∃ a', s.db.approvals[id]? = some a' ∧
    a'.terms = a.terms ∧ (a.status ≠ .pending → a' = a)) ?_ ⟨a, ha, rfl, fun _ => rfl⟩ as
  rintro s c ⟨a', ha', hterms, hkept⟩
  obtain ⟨a'', ha'', hstep⟩ := step_approval ha' c
  cases hstep with
  | kept => exact ⟨a', ha'', hterms, hkept⟩
  | decided hpending hstatus =>
    refine ⟨_, ha'', hterms, fun hne => ?_⟩
    rw [hkept hne] at hpending
    exact absurd hpending hne

/-- A request without its reservation: what its creation wrote. -/
def PaymentRequest.order (r : PaymentRequest) : PaymentRequest :=
  { r with budgetReservationId := none }

lemma State.step_order {env : Env} {s : State} {i : RequestId} {r : PaymentRequest}
    (hr : s.db.paymentRequests.get? i = some r) (c : Action) :
    ∃ r', (s.step env c).db.paymentRequests.get? i = some r' ∧ r'.order = r.order := by
  have hwrites := step_writes env s c
  generalize (s.step env c).db = db at hwrites
  cases hwrites with
  | nothing | configures | replays => exact ⟨r, hr, rfl⟩
  | executes _ hexecutes | finalizes _ hexecutes =>
    have hrequests : db.paymentRequests = s.db.paymentRequests :=
      congrArg Decisions.paymentRequests hexecutes.decisions
    exact ⟨r, hrequests ▸ hr, rfl⟩
  | accepts hcreation hopens hdecides =>
    obtain ⟨v, -, hcommits, -⟩ := hopens.decided hdecides
    exact ⟨r, (Table.get?_append_lt hcommits.requests (Table.get?_lt hr)).trans hr, rfl⟩
  | @approves now id reason authorization x _ hrun =>
    obtain ⟨p, status⟩ := x
    obtain ⟨actor, approval, request, payment, budgetId, budget, happroves⟩ :=
      approvePayment_rows hrun
    rw [happroves.request_get?]
    split_ifs with hi
    · subst hi
      obtain rfl := Option.some.inj (happroves.requests.symm.trans hr)
      exact ⟨_, rfl, rfl⟩
    · exact ⟨r, hr, rfl⟩
  | denies hrun =>
    obtain ⟨actor, approval, -, -, -, hrequests, -⟩ := denyPayment_rows hrun
    exact ⟨r, hrequests ▸ hr, rfl⟩

/-- A row that every step keeps, up to the columns of `f`, is kept by a run. -/
lemma State.run_row {α τ : Type} (get : Db → Option α) {f : α → τ} {env : Env}
    (hstep : ∀ (s : State) (c : Action) (x : α), get s.db = some x →
      ∃ x', get (s.step env c).db = some x' ∧ f x' = f x) {s : State} {x : α}
    (hx : get s.db = some x) (as : List Action) :
    ∃ x', get (Machine.run (step env) s as).db = some x' ∧ f x' = f x := by
  refine Machine.run_invariant (I := fun s : State => ∃ x', get s.db = some x' ∧ f x' = f x) ?_
    ⟨x, hx, rfl⟩ as
  rintro s c ⟨x', hx', hsame⟩
  obtain ⟨x'', hx'', hsame'⟩ := hstep s c x' hx'
  exact ⟨x'', hx'', hsame'.trans hsame⟩

lemma State.run_order {env : Env} {s : State} {i : RequestId} {r : PaymentRequest}
    (hr : s.db.paymentRequests.get? i = some r) (as : List Action) :
    ∃ r', (Machine.run (step env) s as).db.paymentRequests.get? i = some r' ∧
      r'.order = r.order :=
  run_row (fun db => db.paymentRequests.get? i) (fun _ c _ hr => step_order hr c) hr as

/-- What an approval that is granted has been checked for, `intent` being what it was opened for. -/
structure Approval.Granted (env : Env) (now : Time) (db : Db) (a : Approval) (intent : Intent) :
    Prop where
  pending : a.status = .pending
  unexpired : ∀ expiry ∈ a.expiresAt, now < expiry
  bound : ∃ request, db.paymentRequests.get? a.paymentRequestId = some request ∧
    a.intentDigest = (ControlRepository.bindingOf db a.paymentRequestId request).digest env ∧
    (Function.Injective env.digest → db.intent a.paymentRequestId request = intent)

/-- What `approve_payment` grants, in whatever database. -/
lemma approvePayment_granted {env : Env} {now : Time} {db opened : Db} {id : ApprovalId}
    {a : Approval} {reason authorization : Option String} {request : PaymentRequest}
    {x : (PaymentId × PaymentStatus) × Db} (ha : db.approvals[id]? = some a)
    (hdigest : a.intentDigest =
      (ControlRepository.bindingOf opened a.paymentRequestId request).digest env)
    (hrun : approvePayment env now db id reason authorization = .ok x) :
    a.Granted env now db (opened.intent a.paymentRequestId request) := by
  obtain ⟨⟨p, status⟩, db'⟩ := x
  obtain ⟨actor, approval, request', payment, budgetId, budget, happroves⟩ :=
    approvePayment_rows hrun
  obtain rfl := Option.some.inj (happroves.approvals.symm.trans ha)
  refine ⟨happroves.pending, happroves.unexpired, request', happroves.requests, happroves.digest,
    fun hinjective => ?_⟩
  exact Db.intent_eq_of_payload (hinjective (happroves.digest.symm.trans hdigest))

/-- An approval is opened pending and with an expiry. In every run from there it stands with its
payment, is not touched once it is decided, and is granted in time and for the intent it was opened
for alone, whatever has become of the other rows. -/
theorem run_approval {env : Env} {s : State} (hs : s.Occurs env) {c : Action} {id : ApprovalId}
    {a : Approval} (hnone : s.db.approvals[id]? = none)
    (ha : (s.step env c).db.approvals[id]? = some a) (as : List Action) :
    a.status = .pending ∧ a.expiresAt.isSome ∧
      ∃ a' request request',
        (Machine.run (State.step env) (s.step env c) as).db.approvals[id]? = some a' ∧
        a'.terms = a.terms ∧ a'.Stands (Machine.run (State.step env) (s.step env c) as).db ∧
        (a'.status ≠ .pending → ∀ bs, (Machine.run (State.step env)
          (Machine.run (State.step env) (s.step env c) as) bs).db.approvals[id]? = some a') ∧
        (s.step env c).db.paymentRequests.get? a.paymentRequestId = some request ∧
        (Machine.run (State.step env) (s.step env c) as).db.paymentRequests.get?
          a.paymentRequestId = some request' ∧ request'.order = request.order ∧
        ∀ db now reason authorization x, db.approvals[id]? = some a' →
          approvePayment env now db id reason authorization = .ok x →
          a'.Granted env now db ((s.step env c).db.intent a.paymentRequestId request) := by
  obtain ⟨now, i, versionId, budgetId, amount, merchantId, hcommits, hopened⟩ :=
    State.step_opens hnone ha
  obtain rfl := List.mem_singleton.mp hopened
  refine ⟨rfl, rfl, ?_⟩
  have hrequest := (Table.get?_of_rows_append hcommits.requests s.db.paymentRequests.nextId).trans
    (if_pos rfl)
  obtain ⟨a', ha', hterms, -⟩ := State.run_approval_kept ha as
  obtain ⟨request', hrequest', horder⟩ := State.run_order hrequest as
  have hoccurs := (hs.step c).run as
  refine ⟨a', _, request', ha', hterms, hoccurs.stands (List.mem_of_getElem? ha'), ?_, hrequest,
    hrequest', horder, ?_⟩
  · intro hdecided bs
    obtain ⟨a'', ha'', -, hkept⟩ := State.run_approval_kept ha' bs
    rw [ha'', hkept hdecided]
  · intro db now' reason authorization x hdb hrun
    simp only [Approval.terms, Prod.mk.injEq] at hterms
    obtain ⟨hsame, -, hdigest⟩ := hterms
    rw [← hsame] at hdigest ⊢
    exact approvePayment_granted hdb hdigest hrun

/-- A policy that wants approval above 10 USD. -/
def SpendingPolicy.asking : SpendingPolicy :=
  { perTransactionLimit := .finite ⟨500, 0⟩, approvalAbove := some (.finite ⟨10, 0⟩) }

/-- A call for 60 USD that has to be approved is about to be decided. -/
def State.asking : State :=
  Machine.run (step Env.sample) (.start (.sample [.asking]))
    [.openPayment 900 (.sample "key" 60), .insertRequest 0 900]

/-- The approval it opens is granted at 950. -/
theorem run_approval_sample :
    ∃ a', (Machine.run (State.step Env.sample) (State.asking.step Env.sample (.commitPayment 0 900))
        [.approve 950 0 none (some "Bearer approver")]).db.approvals[0]? = some a' ∧
      a'.status = .approved ∧ a'.Stands (Machine.run (State.step Env.sample)
        (State.asking.step Env.sample (.commitPayment 0 900))
        [.approve 950 0 none (some "Bearer approver")]).db := by
  have hoccurs : State.asking.Occurs Env.sample := ⟨_, _, Db.sample_fresh _, rfl⟩
  have hopens : ((State.asking.step Env.sample (.commitPayment 0 900)).db.approvals[0]?).isSome =
      true := by decide +kernel
  obtain ⟨a, ha⟩ := Option.isSome_iff_exists.mp hopens
  obtain ⟨-, -, a', -, -, ha', -, hstands, -⟩ :=
    run_approval hoccurs (by decide +kernel) ha [.approve 950 0 none (some "Bearer approver")]
  have happroved : ((Machine.run (State.step Env.sample)
      (State.asking.step Env.sample (.commitPayment 0 900))
      [.approve 950 0 none (some "Bearer approver")]).db.approvals[0]?).map (·.status) =
        some .approved := by decide +kernel
  rw [ha'] at happroved
  exact ⟨a', ha', Option.some.inj happroved, hstands⟩

end AgentPay
