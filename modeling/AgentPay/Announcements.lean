import AgentPay.Charging
import AgentPay.Denials

/-!
# What the outbox announces

`finalize`, creation and denial enqueue an event with the status they write. Provider events and
lifecycle operations write the same statuses and enqueue nothing, and a worker that finalizes a
payment again announces it again.
-/

namespace AgentPay

open Support

/-! ### Outcomes and events -/

/-- The statuses that an event is to announce. -/
def PaymentStatus.IsOutcome (status : PaymentStatus) : Prop :=
  status ∈ [.succeeded, .failed, .unknownExternalOutcome, .voided, .refunded]

instance : DecidablePred PaymentStatus.IsOutcome :=
  fun _ => inferInstanceAs (Decidable (_ ∈ _))

/-- The event announces that payment `p` came into this status. -/
def OutboxEvent.announces (p : PaymentId) (status : PaymentStatus) : OutboxEvent → Bool
  | .paymentSucceeded q _ _      => q = p && status = .succeeded
  | .paymentFailed q _           => q = p && status = .failed
  | .paymentOutcomeUnknown q _   => q = p && status = .unknownExternalOutcome
  | .paymentStarted _ _ | .approvalRequested _ _ _ _ | .paymentApproved _ _ _
  | .notificationRequested _ _ _ => false

/-- Every payment that a transaction moves into an outcome is announced by exactly one event of
that transaction. -/
def Db.Announces (db db' : Db) : Prop :=
  ∃ events, db'.outboxEvents = db.outboxEvents ++ events ∧
    ∀ p payment, db'.payments.get? p = some payment → payment.status.IsOutcome →
      (db.payments.get? p).map (·.status) ≠ some payment.status →
        events.countP (·.announces p payment.status) = 1

/-- The events of a payment in the whole outbox that announce a status. -/
def Db.announced (db : Db) (p : PaymentId) (status : PaymentStatus) : ℕ :=
  db.outboxEvents.countP (·.announces p status)

/-! ### The condition -/

namespace PaymentLifecycle

/-- A capture or a void that passes the checks: of an AUTHORIZED payment, for its amount in its
currency. -/
def OnAuthorized (db : Db) (p : PaymentId) (amount : Decimal) (currency : String) : Prop :=
  ∃ payment ∈ db.payments.get? p, payment.status = .authorized ∧
    amount.units = payment.amount.toDecimal.units ∧
    normCurrency currency = normCurrency payment.currency ∧ (amountMinor amount).isOk

/-- A refund that passes the checks: of a captured payment in its currency, for no more than what
is left, and under a key that is not settled. -/
def OnCaptured (db : Db) (p : PaymentId) (amount : Decimal) (rawCurrency : String) : Prop :=
  ∃ payment ∈ db.payments.get? p, payment.status ∈ [.succeeded, .refundFailed, .refunded] ∧
    normCurrency rawCurrency = normCurrency payment.currency ∧
    (∀ t ∈ db.transactions.row? (.refund p amount (normCurrency rawCurrency)),
      t.status = .pending) ∧
    amount.units ≤ (postedSum db p .capture : ℚ) - postedSum db p .refund ∧
    (amountMinor amount).isOk

instance (db : Db) (p : PaymentId) (amount : Decimal) (currency : String) :
    Decidable (OnAuthorized db p amount currency) := by
  unfold OnAuthorized
  infer_instance

instance (db : Db) (p : PaymentId) (amount : Decimal) (rawCurrency : String) :
    Decidable (OnCaptured db p amount rawCurrency) := by
  unfold OnCaptured
  infer_instance

/-- The status a captured payment is left in by a refund of `amount`. -/
def refundedStatus (db : Db) (p : PaymentId) (amount : Decimal) : PaymentStatus :=
  if (postedSum db p .capture : ℚ) - (postedSum db p .refund + amount.units) = 0 then .refunded
  else .succeeded

end PaymentLifecycle

/-- The status that a provider event or a lifecycle operation writes once its checks are passed:
none of them enqueues an event. -/
def Action.silent (env : Env) (s : State) : Action → Option (PaymentId × PaymentStatus)
  | .webhook now delivery =>
    ((delivery.target env.replayWindow now s.db).filter fun (p, _) =>
        (s.db.payments.get? p).any (·.status.Resolvable)).map
      fun (p, outcome) => (p, outcome.paymentStatus)
  | .capture p amount currency _ outcome =>
    if PaymentLifecycle.OnAuthorized s.db p amount currency then some (p, outcome.paymentStatus)
    else none
  | .void p amount currency outcome =>
    if PaymentLifecycle.OnAuthorized s.db p amount currency then
      some (p, match outcome with
        | .succeeded => .voided
        | .failed    => .voidFailed
        | .unknown   => .unknownExternalOutcome)
    else none
  | .refund p amount currency _ outcome =>
    if PaymentLifecycle.OnCaptured s.db p amount currency then
      some (p, match outcome with
        | .succeeded => PaymentLifecycle.refundedStatus s.db p amount
        | .failed    => .refundFailed
        | .unknown   => .unknownExternalOutcome)
    else none
  | _ => none

/-- No provider event and no lifecycle operation moves a payment into an outcome. -/
def Action.Heard (env : Env) (s : State) (a : Action) : Prop :=
  ∀ x ∈ a.silent env s, x.2.IsOutcome → (s.db.payments.get? x.1).map (·.status) = some x.2

/-- The claim and the answer that a step finalizes. -/
def Action.finalizing (s : State) : Action → Option (Worker.Claim × ProviderAnswer)
  | .finalize w =>
    match s.workers[w]? with
    | some (.answered claim answer) => some (claim, answer)
    | _                             => none
  | _ => none

/-- No worker decides a payment whose charge is decided already, as it is when another worker has
re-opened the payment. -/
def Action.DecidesOnce (s : State) (a : Action) : Prop :=
  ∀ x ∈ a.finalizing s, x.2.outcome ≠ .unknown → ∀ v ∈ view s.db x.1.paymentId,
    v.status.Executable → v.charge ≠ some true

instance (env : Env) (s : State) (a : Action) : Decidable (a.Heard env s) := by
  unfold Action.Heard
  infer_instance

instance (s : State) (a : Action) : Decidable (a.DecidesOnce s) := by
  unfold Action.DecidesOnce
  infer_instance

/-! ### What lifecycle operations write -/

namespace PaymentLifecycle

/-- An operation that fails its checks changes nothing. -/
lemma commit_of_not {db : Db} {run : Except Error Progress} {due : Prop}
    (hrun : ∀ progress, run = .ok progress → (∃ status, progress = .returned status db) ∨ due)
    (hnot : ¬due) (outcome : ProviderOutcome) :
    db.commit ((run >>= Progress.answer outcome).map (·.2)) = db := by
  cases h : run with
  | error e => rfl
  | ok progress =>
    rcases hrun progress h with ⟨status, rfl⟩ | hdue
    · rfl
    · exact absurd hdue hnot

lemma capture_due {db : Db} {p : PaymentId} {amount : Decimal} {currency : String}
    {accounts : LedgerAccounts} {progress : Progress}
    (h : capture db p amount currency accounts = .ok progress) :
    (∃ status, progress = .returned status db) ∨ OnAuthorized db p amount currency := by
  rcases capture_eq_ok h with rfl | ⟨payment, _, _, minor, hp, hauth, hvalid, -, hminor, -⟩
  · exact .inl ⟨_, rfl⟩
  · obtain ⟨-, hamount, -, hcurrency⟩ := validateOperationAmount_eq_ok hvalid
    exact .inr ⟨payment, hp, hauth, hamount, hcurrency, by rw [hminor]; rfl⟩

lemma void_due {db : Db} {p : PaymentId} {amount : Decimal} {currency : String}
    {progress : Progress} (h : void db p amount currency = .ok progress) :
    (∃ status, progress = .returned status db) ∨ OnAuthorized db p amount currency := by
  rcases void_eq_ok h with rfl | ⟨payment, _, _, minor, hp, hauth, hvalid, -, hminor, -⟩
  · exact .inl ⟨_, rfl⟩
  · obtain ⟨-, hamount, -, hcurrency⟩ := validateOperationAmount_eq_ok hvalid
    exact .inr ⟨payment, hp, hauth, hamount, hcurrency, by rw [hminor]; rfl⟩

lemma refund_due {db : Db} {p : PaymentId} {amount : Decimal} {rawCurrency : String}
    {accounts : LedgerAccounts} {progress : Progress}
    (h : refund db p amount rawCurrency accounts = .ok progress) :
    (∃ status, progress = .returned status db) ∨ OnCaptured db p amount rawCurrency := by
  rcases refund_eq_ok h with ⟨status, rfl, -⟩ |
    ⟨payment, _, _, _, _, minor, hp, hstatus, -, hcurrency, hpending, hwithin, -, -, hminor, -⟩
  · exact .inl ⟨status, rfl⟩
  · exact .inr ⟨payment, hp, hstatus, hcurrency, hpending, hwithin, by rw [hminor]; rfl⟩

/-- A refund that succeeds leaves the payment REFUNDED when nothing is left of it. -/
lemma refund_status {db db' : Db} {p : PaymentId} {amount : Decimal} {rawCurrency : String}
    {accounts : LedgerAccounts} {status : PaymentStatus}
    (hrun : (refund db p amount rawCurrency accounts >>= Progress.answer .succeeded) =
      .ok (status, db')) :
    db' = db ∨ ∀ payment, db'.payments.get? p = some payment →
      payment.status = refundedStatus db p amount := by
  obtain ⟨progress, hrefund, hanswer⟩ := Except.bind_eq_ok.mp hrun
  rcases refund_eq_ok hrefund with ⟨status', rfl, -⟩ |
    ⟨payment₀, id, db₁, refundId, db₂, minor, -, -, -, -, -, -, -, -, -, rfl⟩
  · exact .inl (Prod.mk.inj (Except.ok.inj hanswer)).2.symm
  have hanswer : refundAnswered db₂ p refundId amount (normCurrency rawCurrency) rawCurrency
      accounts (postedSum db p .capture) (postedSum db p .refund) .succeeded =
        .ok (status, db') := hanswer
  obtain ⟨⟨journalId, db₃⟩, -, hanswer⟩ := Except.bind_eq_ok.mp hanswer
  obtain ⟨-, rfl⟩ := Prod.mk.inj (Except.ok.inj hanswer)
  refine .inr fun payment hp => ?_
  rw [get?_updateStatus, Option.map_eq_some_iff] at hp
  obtain ⟨payment₁, -, rfl⟩ := hp
  rfl

end PaymentLifecycle

/-! ### One transaction -/

/-- What moves a payment into an outcome without an event is silent. -/
lemma Action.silent_of_moved {env : Env} {s : State} {a : Action} (ha : a.executes = true)
    {p : PaymentId} {op : PaymentOp} {v v' : PaymentView} (htarget : a.target env s = some (p, op))
    (hv : view s.db p = some v) (hv' : view (s.step env a).db p = some v')
    (hstep : PaymentStep op v v') (hmoved : v.status ≠ v'.status)
    (houtcome : v'.status.IsOutcome) : (p, v'.status) ∈ a.silent env s := by
  obtain ⟨payment, request, hp, -, rfl⟩ := view_eq_some.mp hv
  have hstays (hsame : (s.step env a).db = s.db) : False := by
    rw [hsame, hv] at hv'
    obtain rfl := Option.some.inj hv'
    exact hmoved rfl
  cases a with
  | mark q accounts =>
    obtain ⟨rfl, rfl⟩ := Prod.mk.inj (Option.some.inj htarget)
    cases hstep
    exact absurd (show PaymentStatus.processing.IsOutcome from houtcome) (by decide)
  | webhook now delivery =>
    obtain ⟨⟨q, outcome⟩, hdelivery, htarget⟩ := Option.map_eq_some_iff.mp htarget
    obtain ⟨rfl, rfl⟩ := Prod.mk.inj htarget
    have hsilent : ∀ status, payment.status.Resolvable → status = outcome.paymentStatus →
        (q, status) ∈ (Action.webhook now delivery).silent env s := by
      rintro _ hresolvable rfl
      simp [silent, hdelivery, hp, hresolvable]
    cases hstep with
    | eventFailed hresolvable => exact hsilent _ hresolvable rfl
    | eventSucceeded hresolvable => exact hsilent _ hresolvable rfl
  | capture q amount currency accounts outcome =>
    obtain ⟨rfl, rfl⟩ := Prod.mk.inj (Option.some.inj htarget)
    have hdue : PaymentLifecycle.OnAuthorized s.db q amount currency := by
      by_contra hnot
      exact hstays (PaymentLifecycle.commit_of_not (fun _ => PaymentLifecycle.capture_due) hnot
        outcome)
    cases hstep <;> simp [silent, hdue, ProviderOutcome.paymentStatus, PaymentView.withStatus]
  | void q amount currency outcome =>
    obtain ⟨rfl, rfl⟩ := Prod.mk.inj (Option.some.inj htarget)
    have hdue : PaymentLifecycle.OnAuthorized s.db q amount currency := by
      by_contra hnot
      exact hstays (PaymentLifecycle.commit_of_not (fun _ => PaymentLifecycle.void_due) hnot
        outcome)
    cases hstep <;> simp [silent, hdue, PaymentView.withStatus]
  | refund q amount currency accounts outcome =>
    obtain ⟨rfl, rfl⟩ := Prod.mk.inj (Option.some.inj htarget)
    have hdue : PaymentLifecycle.OnCaptured s.db q amount currency := by
      by_contra hnot
      exact hstays (PaymentLifecycle.commit_of_not (fun _ => PaymentLifecycle.refund_due) hnot
        outcome)
    cases outcome with
    | succeeded =>
      have hstatus : v'.status = PaymentLifecycle.refundedStatus s.db q amount := by
        obtain ⟨payment', request', hp', -, rfl⟩ := view_eq_some.mp hv'
        have hdb : (s.step env (.refund q amount currency accounts .succeeded)).db =
            s.db.commit ((PaymentLifecycle.refund s.db q amount currency accounts >>=
              Progress.answer .succeeded).map (·.2)) := rfl
        cases hrun : PaymentLifecycle.refund s.db q amount currency accounts >>=
            Progress.answer .succeeded with
        | error e =>
          rw [hrun] at hdb
          exact (hstays hdb).elim
        | ok result =>
          rw [hrun] at hdb
          rcases PaymentLifecycle.refund_status hrun with hsame | hstatus
          · exact (hstays (hdb.trans hsame)).elim
          · rw [hdb] at hp'
            exact hstatus payment' hp'
      simp [silent, hdue, hstatus]
    | failed =>
      cases hstep
      exact absurd (show PaymentStatus.refundFailed.IsOutcome from houtcome) (by decide)
    | unknown =>
      cases hstep
      simp [silent, hdue, PaymentView.putRefund]
  | settle report => cases htarget
  | _ => cases ha

/-- A payment whose status a step changes is the one it is about, or a new one. -/
lemma State.step_moved {env : Env} {s : State} (h : s.Invariant) {a : Action} {p : PaymentId}
    {payment : Payment} (hp : (s.step env a).db.payments.get? p = some payment)
    (hmoved : (s.db.payments.get? p).map (·.status) ≠ some payment.status) :
    (∃ op v v', a.target env s = some (p, op) ∧ view s.db p = some v ∧
      view (s.step env a).db p = some v' ∧ PaymentStep op v v' ∧ v.status ≠ v'.status ∧
      v'.status = payment.status) ∨ p = s.db.payments.nextId := by
  have hfollows := step_follows h env a
  obtain ⟨v', hv'⟩ := hfollows.sound.view_some hp
  have hstatus : v'.status = payment.status := by
    obtain ⟨payment', request', hp', -, rfl⟩ := view_eq_some.mp hv'
    obtain rfl := Option.some.inj (hp.symm.trans hp')
    rfl
  have hbefore : ∀ v, view s.db p = some v → v.status ≠ v'.status := by
    rintro v hv heq
    obtain ⟨payment₀, request₀, hp₀, -, rfl⟩ := view_eq_some.mp hv
    rw [hp₀, Option.map_some, ← hstatus, ← heq] at hmoved
    exact hmoved rfl
  rcases hfollows.view_eq_some hv' with hv | ⟨op, v, htarget, hv, hstep⟩ | ⟨hnew, -⟩
  · exact absurd rfl (hbefore v' hv)
  · exact .inl ⟨op, v, v', htarget, hv, hv', hstep, hbefore v hv, hstatus⟩
  · exact .inr hnew

/-- The events of a new payment announce the outcome it is created in. -/
lemma Verdict.events_announce {db : Db} {i : Intake} {v : Verdict} (houtcome : v.status.IsOutcome) :
    (v.events db i).countP (·.announces db.payments.nextId v.status) = 1 := by
  cases v with
  | denied | unfunded => simp [events, status, OutboxEvent.announces]
  | waits =>
    exact absurd (show PaymentStatus.approvalRequired.IsOutcome from houtcome) (by decide)
  | starts => exact absurd (show PaymentStatus.processing.IsOutcome from houtcome) (by decide)

/-- A step that is heard announces every outcome it moves a payment into. -/
theorem State.step_announces {env : Env} {s : State} (h : s.Invariant) {a : Action}
    (hheard : a.Heard env s) : s.db.Announces (s.step env a).db := by
  have hmoves {p : PaymentId} {payment : Payment}
      (hp : (s.step env a).db.payments.get? p = some payment)
      (hmoved : (s.db.payments.get? p).map (·.status) ≠ some payment.status) :=
    step_moved h hp hmoved
  have hwrites := step_writes env s a
  generalize hdb : (s.step env a).db = db at hwrites hmoves ⊢
  have hold {p : PaymentId} {payment : Payment} (hp : db.payments.get? p = some payment)
      (hkept : (db.payments.get? p).map Payment.terms = (s.db.payments.get? p).map Payment.terms) :
      p ≠ s.db.payments.nextId := by
    rintro rfl
    have hnone : s.db.payments.get? s.db.payments.nextId = none :=
      List.getElem?_eq_none (le_refl _)
    rw [hp, hnone] at hkept
    cases hkept
  cases hwrites with
  | nothing | configures | replays =>
    refine ⟨[], (List.append_nil _).symm, fun p payment hp _ hmoved => absurd ?_ hmoved⟩
    exact congrArg (Option.map _) hp
  | executes ha hexecutes =>
    refine ⟨[], hexecutes.outbox, fun p payment hp houtcome hmoved => ?_⟩
    rcases hmoves hp hmoved with ⟨op, v, v', htarget, hv, hv', hstep, hne, hstatus⟩ | hnew
    · have hsilent := Action.silent_of_moved ha htarget hv (hdb ▸ hv') hstep hne
        (hstatus ▸ houtcome)
      exact absurd (hstatus ▸ hheard _ hsilent (hstatus ▸ houtcome)) hmoved
    · exact absurd hnew (hold hp (hexecutes.payments p))
  | @finalizes w c answer _ hw hexecutes =>
    refine ⟨_, hexecutes.outbox, fun p payment hp houtcome hmoved => ?_⟩
    rcases hmoves hp hmoved with ⟨op, v, v', htarget, hv, hv', hstep, hne, hstatus⟩ | hnew
    · have htarget : some (c.paymentId, PaymentOp.finalize answer.outcome) = some (p, op) := by
        simpa [Action.target, hw] using htarget
      obtain ⟨rfl, rfl⟩ := Prod.mk.inj (Option.some.inj htarget)
      rw [← hstatus]
      generalize answer.outcome = outcome at hstep ⊢
      cases hstep <;> simp [ProviderOutcome.event, OutboxEvent.announces, PaymentView.withStatus,
        PaymentView.fail, PaymentView.succeed]
    · exact absurd hnew (hold hp (hexecutes.payments p))
  | accepts hcreation hopens hdecides =>
    obtain ⟨v, -, hcommits, -⟩ := hopens.decided hdecides
    refine ⟨_, hcommits.outbox, fun p payment hp houtcome hmoved => ?_⟩
    rcases hmoves hp hmoved with ⟨op, v, v', htarget, -⟩ | rfl
    · cases htarget
    · have hnew := (Table.get?_of_rows_append hcommits.payments s.db.payments.nextId).trans
        (if_pos rfl)
      obtain rfl := Option.some.inj (hp.symm.trans hnew)
      exact Verdict.events_announce houtcome
  | @approves now id reason authorization x _ hrun =>
    obtain ⟨q, status⟩ := x
    obtain ⟨actor, approval, request, payment₀, budgetId, budget, happroves⟩ :=
      approvePayment_rows hrun
    refine ⟨_, congrArg Db.outboxEvents happroves.rest, fun p payment hp houtcome hmoved => ?_⟩
    rcases hmoves hp hmoved with ⟨op, v, v', htarget, hv, hv', hstep, hne, hstatus⟩ | hnew
    · obtain ⟨q', -, htarget⟩ := Option.map_eq_some_iff.mp htarget
      obtain ⟨rfl, rfl⟩ := Prod.mk.inj htarget
      cases hstep
      rw [← hstatus] at houtcome
      exact absurd (show PaymentStatus.processing.IsOutcome from houtcome) (by decide)
    · exact absurd hnew (hold hp (happroves.payment_terms p))
  | @denies id reason authorization x _ hrun =>
    obtain ⟨q, status⟩ := x
    have hq := (denyPayment_moves h.sound hrun).1
    obtain ⟨actor, approval, request, payment₀, -, -, -, rfl⟩ := denyPayment_eq_ok hrun
    refine ⟨[.paymentFailed q (.userDenied id)], rfl, fun p payment hp houtcome hmoved => ?_⟩
    rcases hmoves hp hmoved with ⟨op, v, v', htarget, hv, hv', hstep, hne, hstatus⟩ | hnew
    · obtain ⟨q', hq', htarget⟩ := Option.map_eq_some_iff.mp htarget
      obtain ⟨rfl, rfl⟩ := Prod.mk.inj htarget
      obtain rfl := Option.some.inj (hq.symm.trans hq')
      cases hstep
      rw [← hstatus]
      simp [OutboxEvent.announces]
    · exact absurd hnew (hold hp ((Executes.updateStatus (ControlRepository.setApproval s.db id
        .denied actor reason) q .failed none).payments p))

/-! ### Charged once, announced once -/

/-- The number of events that announce the operation's SUCCEEDED or FAILED. -/
def PaymentOp.verdicts : PaymentOp → ℕ
  | .finalize .succeeded | .finalize .failed | .deny => 1
  | _                                                => 0

/-- The number of events that announce a SUCCEEDED or FAILED of the payment. -/
def verdicts (events : List OutboxEvent) (p : PaymentId) : ℕ :=
  events.countP (·.announces p .succeeded) + events.countP (·.announces p .failed)

lemma verdicts_append (events added : List OutboxEvent) (p : PaymentId) :
    verdicts (events ++ added) p = verdicts events p + verdicts added p := by
  simp only [verdicts, List.countP_append]
  omega

/-- A payment that was decided `n` times: once it is, its charge is completed or it can not get
one. -/
def Counts (n : ℕ) : Option PaymentView → Prop
  | none   => n = 0
  | some v => n ≤ 1 ∧ (0 < v.pending → v.charge = none) ∧
      (0 < n → v.charge = some true ∨ v.Barred)

/-- What a step with `n` such events of a payment makes of its view. -/
inductive Told : ℕ → Option PaymentView → Option PaymentView → Prop
  | stays (v) : Told 0 v v
  | moves {op v v'} (h : PaymentStep op v v')
      (hfirst : ∀ outcome, op = .finalize outcome → outcome ≠ .unknown → v.charge ≠ some true) :
      Told op.verdicts (some v) (some v')
  | opens {v} (h : v.Created) : Told 0 none (some v)
  | denied {v} (h : v.Created) (hbarred : v.Barred) : Told 1 none (some v)

/-- A step of the machine announces a decision at most once. -/
lemma PaymentStep.counts {op : PaymentOp} {v v' : PaymentView} (h : PaymentStep op v v')
    (hreg : v.Regular)
    (hfirst : ∀ outcome, op = .finalize outcome → outcome ≠ .unknown → v.charge ≠ some true)
    {n : ℕ} (hn : Counts n (some v)) : Counts (n + op.verdicts) (some v') := by
  obtain ⟨hle, hidle, hfinal⟩ := hn
  have hzero {outcome : ProviderOutcome} (hop : op = .finalize outcome)
      (houtcome : outcome ≠ .unknown) (hres : v.reservation.isSome) : n = 0 := by
    by_contra hne
    rcases hfinal (Nat.pos_of_ne_zero hne) with htrue | ⟨hnone, -⟩
    · exact hfirst outcome hop houtcome htrue
    · rw [hnone] at hres
      cases hres
  have hcompleted {charge : Option Bool} (hsome : charge.isSome) :
      charge.map (fun _ => true) = some true := by
    obtain ⟨b, rfl⟩ := Option.isSome_iff_exists.mp hsome
    rfl
  have hbarred := fun hb => PaymentStep.barred h hb
  cases h with
  | mark hres =>
    refine ⟨hle, fun hpos => ?_, fun hpos => ?_⟩
    · rw [(hreg.waiting hpos).2] at hres
      cases hres
    · rcases hfinal hpos with htrue | hb
      · exact .inl (by simp [PaymentView.mark, htrue])
      · exact .inr (hbarred hb)
  | finalizeUnknown => exact ⟨hle, hidle, fun hpos => (hfinal hpos).imp_right hbarred⟩
  | finalizeFailed _ hcharge hres | finalizeSucceeded _ hcharge hres =>
    obtain rfl := hzero rfl (by decide) hres
    refine ⟨le_refl _, fun hpos => ?_, fun _ => .inl (hcompleted hcharge)⟩
    rw [(hreg.waiting hpos).2] at hres
    cases hres
  | eventFailed _ hcharge | eventSucceeded _ hcharge =>
    refine ⟨hle, fun hpos => ?_, fun _ => .inl (hcompleted hcharge)⟩
    rw [hidle hpos] at hcharge
    cases hcharge
  | approve hpos =>
    have hnone := hidle hpos
    have hn : n = 0 := by
      by_contra hne
      rcases hfinal (Nat.pos_of_ne_zero hne) with htrue | ⟨-, hpending⟩
      · rw [hnone] at htrue
        cases htrue
      · omega
    exact ⟨hle, fun _ => hnone, fun hpos => by rw [hn] at hpos; cases hpos⟩
  | deny hpos =>
    have hnone := hidle hpos
    have hn : n = 0 := by
      by_contra hne
      rcases hfinal (Nat.pos_of_ne_zero hne) with htrue | ⟨-, hpending⟩
      · rw [hnone] at htrue
        cases htrue
      · omega
    have hsingle := hreg.single
    refine ⟨by rw [hn]; rfl, fun _ => hnone, fun _ => .inr ⟨(hreg.waiting hpos).2, ?_⟩⟩
    show v.pending - 1 = 0
    omega
  | _ => exact ⟨hle, hidle, fun hpos => (hfinal hpos).imp_right hbarred⟩

lemma Told.counts {n m : ℕ} {before after : Option PaymentView} (h : Told n before after)
    (hreg : ∀ v, before = some v → v.Regular) (hm : Counts m before) : Counts (m + n) after := by
  cases h with
  | stays => exact hm
  | moves hstep hfirst => exact hstep.counts (hreg _ rfl) hfirst hm
  | opens hcreated =>
    obtain rfl := hm
    exact ⟨Nat.zero_le _, fun _ => hcreated.charge, fun hpos => absurd hpos (lt_irrefl 0)⟩
  | denied hcreated hbarred =>
    obtain rfl := hm
    exact ⟨le_refl _, fun _ => hcreated.charge, fun _ => .inr hbarred⟩

lemma verdicts_eq_zero {events : List OutboxEvent} {p : PaymentId}
    (h : ∀ event ∈ events, ∀ status, event.announces p status = false) : verdicts events p = 0 := by
  have hnone (status : PaymentStatus) : events.countP (·.announces p status) = 0 := by
    rw [List.countP_eq_zero]
    intro event hevent
    rw [h event hevent status]
    exact Bool.false_ne_true
  rw [verdicts, hnone, hnone]

/-- The verdicts of a step without announcements leave every payment as it was counted. -/
lemma Follows.told {target : Option (PaymentId × PaymentOp)} {db db' : Db}
    (h : Follows target db db') (hquiet : ∀ p op, target = some (p, op) → op.verdicts = 0)
    (hfirst : ∀ p outcome, target = some (p, .finalize outcome) → outcome = .unknown)
    (p : PaymentId) : Told 0 (view db p) (view db' p) := by
  cases hv' : view db' p with
  | none =>
    cases hv : view db p with
    | none => exact .stays none
    | some v =>
      obtain ⟨w, hw, -⟩ := h.view_some hv
      rw [hv'] at hw
      cases hw
  | some v' =>
    rcases h.view_eq_some hv' with hv | ⟨op, v, htarget, hv, hstep⟩ | ⟨rfl, hcreated⟩
    · rw [hv]
      exact .stays _
    · rw [hv, ← hquiet p op htarget]
      refine .moves hstep fun outcome hop hne => ?_
      subst hop
      exact absurd (hfirst p outcome htarget) hne
    · rw [view_nextId]
      exact .opens hcreated

/-- A verdict is announced under the payment it is about. -/
lemma verdicts_paymentFailed (p q : PaymentId) (reason : FailureReason) :
    verdicts [.paymentFailed p reason] q = if p = q then 1 else 0 := by
  simp [verdicts, OutboxEvent.announces, List.countP_cons]

lemma verdicts_event (outcome : ProviderOutcome) (p q : PaymentId) (reservationId : ReservationId)
    (amount : Decimal) (currency : String) :
    verdicts [outcome.event p reservationId amount currency] q =
      if p = q then (PaymentOp.finalize outcome).verdicts else 0 := by
  cases outcome <;>
    simp [verdicts, ProviderOutcome.event, OutboxEvent.announces, PaymentOp.verdicts,
      List.countP_cons]

/-- A new payment is announced only when it is created in FAILED. -/
lemma Verdict.verdicts_events (db : Db) (i : Intake) (v : Verdict) (p : PaymentId) :
    verdicts (v.events db i) p = if p = db.payments.nextId ∧ v.status = .failed then 1 else 0 := by
  cases v with
  | denied | unfunded =>
    simp [events, status, verdicts_paymentFailed, eq_comm]
  | waits =>
    simp [events, status, verdicts, OutboxEvent.announces]
  | starts _ _ notify =>
    cases notify <;> simp [events, status, verdicts, OutboxEvent.announces]

lemma PaymentStep.executable {outcome : ProviderOutcome} {v v' : PaymentView}
    (h : PaymentStep (.finalize outcome) v v') : v.status.Executable := by
  cases h <;> assumption

/-- The step of a worker that finalizes. -/
lemma State.step_finalize {env : Env} {s : State} (h : s.Invariant) {w : ℕ} {c : Worker.Claim}
    {answer : ProviderAnswer} (hw : s.workers[w]? = some (.answered c answer)) :
    (s.step env (.finalize w)).db = s.db ∨
      ∃ v f, view s.db c.paymentId = some v ∧
        Effect c.paymentId f s.db (s.step env (.finalize w)).db ∧
        PaymentStep (.finalize answer.outcome) v (f v) := by
  obtain ⟨v, hv, hc⟩ := h.claims _ (List.mem_of_getElem? hw) c rfl
  have hdb : (s.step env (.finalize w)).db =
      s.db.commit ((Worker.finalize s.db c answer).map (·.2)) := by
    simp only [step, hw]
    rfl
  rw [hdb]
  cases hrun : Worker.finalize s.db c answer with
  | error e => exact .inl rfl
  | ok x =>
    rcases Worker.finalize_steps h.sound hv hc hrun with hsame | ⟨f, heffect, hstep⟩
    · exact .inl hsame
    · exact .inr ⟨v, f, hv, heffect, hstep⟩

/-- Effects on one payment tell of that payment. -/
lemma Effect.told {db db' : Db} {p : PaymentId} {f : PaymentView → PaymentView}
    {v : PaymentView} {op : PaymentOp} {events : List OutboxEvent} (hv : view db p = some v)
    (h : Effect p f db db') (hstep : PaymentStep op v (f v))
    (hevents : ∀ q, verdicts events q = if p = q then op.verdicts else 0)
    (hfirst : ∀ outcome, op = .finalize outcome → outcome ≠ .unknown → v.charge ≠ some true)
    (q : PaymentId) : Told (verdicts events q) (view db q) (view db' q) := by
  rw [hevents]
  by_cases hq : p = q
  · subst hq
    rw [if_pos rfl, hv, h.view_some hv]
    exact .moves hstep hfirst
  · rw [if_neg hq, h.others q (Ne.symm hq)]
    exact .stays _

/-- Every step that decides no payment again tells of each payment what it does to it. -/
lemma State.step_told {env : Env} {s : State} (h : s.Invariant) {a : Action}
    (honce : a.DecidesOnce s) :
    ∃ events, (s.step env a).db.outboxEvents = s.db.outboxEvents ++ events ∧
      ∀ p, Told (verdicts events p) (view s.db p) (view (s.step env a).db p) := by
  have hfollows := step_follows h env a
  have hwrites := step_writes env s a
  have hsame (hdb : (s.step env a).db = s.db) :
      ∃ events, (s.step env a).db.outboxEvents = s.db.outboxEvents ++ events ∧
        ∀ p, Told (verdicts events p) (view s.db p) (view (s.step env a).db p) := by
    rw [hdb]
    exact ⟨[], (List.append_nil _).symm, fun p => .stays _⟩
  generalize hdb : (s.step env a).db = db at hwrites hfollows hsame ⊢
  cases hwrites with
  | nothing | configures | replays =>
    exact ⟨[], (List.append_nil _).symm, fun p => .stays _⟩
  | executes ha hexecutes =>
    have hquiet : ∀ p op, a.target env s = some (p, op) →
        op.verdicts = 0 ∧ ∀ outcome, op ≠ .finalize outcome := by
      intro p op htarget
      cases a with
      | mark | capture | void | refund =>
        obtain ⟨-, rfl⟩ := Prod.mk.inj (Option.some.inj htarget)
        exact ⟨rfl, fun _ hop => by cases hop⟩
      | webhook =>
        obtain ⟨_, -, htarget⟩ := Option.map_eq_some_iff.mp htarget
        obtain ⟨-, rfl⟩ := Prod.mk.inj htarget
        exact ⟨rfl, fun _ hop => by cases hop⟩
      | settle => cases htarget
      | _ => cases ha
    refine ⟨[], hexecutes.outbox, hfollows.told (fun p op htarget => (hquiet p op htarget).1) ?_⟩
    intro p outcome htarget
    exact absurd rfl ((hquiet p _ htarget).2 outcome)
  | @finalizes w c answer _ hw hexecutes =>
    refine ⟨_, hexecutes.outbox, ?_⟩
    rcases hdb ▸ step_finalize h hw with rfl | ⟨v, f, hv, heffect, hstep⟩
    · exact absurd hexecutes.outbox (by simp)
    · refine heffect.told hv hstep (fun q => verdicts_event _ _ q _ _ _) fun outcome hop hne => ?_
      obtain rfl := PaymentOp.finalize.inj hop
      exact honce (c, answer) (by simp [Action.finalizing, hw]) hne v hv hstep.executable
  | accepts hcreation hopens hdecides =>
    obtain ⟨v, hjustified, hcommits, -⟩ := hopens.decided hdecides
    refine ⟨_, hcommits.outbox, fun p => ?_⟩
    obtain ⟨w, hw, hcreated, hstatus⟩ := hcommits.created hfollows
    rw [Verdict.verdicts_events]
    by_cases hp : p = s.db.payments.nextId
    · subst hp
      rw [hw, view_nextId]
      split_ifs with hfailed
      · exact .denied hcreated (hcreated.barred (hstatus.trans hfailed.2))
      · exact .opens hcreated
    · rw [if_neg fun h => hp h.1]
      rcases hfollows with ⟨_, _, htarget, -⟩ | hcreates
      · cases htarget
      · rw [hcreates.others p hp]
        exact .stays _
  | @approves now id reason authorization x _ hrun =>
    obtain ⟨q, status⟩ := x
    obtain ⟨actor, approval, request, payment₀, budgetId, budget, happroves⟩ :=
      approvePayment_rows hrun
    refine ⟨_, congrArg Db.outboxEvents happroves.rest, fun p => ?_⟩
    rw [verdicts_eq_zero (by simp [OutboxEvent.announces])]
    refine hfollows.told (fun p op htarget => ?_) (fun p outcome htarget => ?_) p
    · obtain ⟨_, -, htarget⟩ := Option.map_eq_some_iff.mp htarget
      obtain ⟨-, rfl⟩ := Prod.mk.inj htarget
      rfl
    · obtain ⟨_, -, htarget⟩ := Option.map_eq_some_iff.mp htarget
      cases (Prod.mk.inj htarget).2
  | @denies id reason authorization x _ hrun =>
    obtain ⟨q, status⟩ := x
    obtain ⟨-, v, f, hv, heffect, hstep⟩ := denyPayment_steps h.sound hrun
    obtain ⟨actor, approval, request, payment₀, -, -, -, rfl⟩ := denyPayment_eq_ok hrun
    refine ⟨[.paymentFailed q (.userDenied id)], rfl, heffect.told hv hstep ?_ ?_⟩
    · exact fun p => verdicts_paymentFailed q p _
    · exact fun _ hop => by cases hop

/-- Every payment of the state was decided at most once. -/
def State.Counted (s : State) : Prop :=
  s.Invariant ∧ ∀ p, Counts (verdicts s.db.outboxEvents p) (view s.db p)

lemma State.Counted.step {env : Env} {s : State} (h : s.Counted) {a : Action}
    (honce : a.DecidesOnce s) : (s.step env a).Counted := by
  obtain ⟨hinv, hcounts⟩ := h
  refine ⟨step_invariant hinv a, fun p => ?_⟩
  obtain ⟨events, houtbox, htold⟩ := @step_told env s hinv a honce
  rw [houtbox, verdicts_append]
  exact (htold p).counts (fun v hv => hinv.regular p v hv) (hcounts p)

lemma Db.Blank.counted {db : Db} (h : db.Blank) (hempty : db.outboxEvents = []) :
    (State.start db).Counted := by
  refine ⟨h.invariant, fun p => ?_⟩
  have hzero : verdicts (State.start db).db.outboxEvents p = 0 := by
    show verdicts db.outboxEvents p = 0
    rw [hempty]
    rfl
  rw [hzero]
  cases hv : AgentPay.view (State.start db).db p with
  | none => rfl
  | some v =>
    exact ⟨Nat.zero_le _, fun _ => (h.view hv).charge, fun hpos => absurd hpos (lt_irrefl 0)⟩

lemma State.Counted.once {s : State} (h : s.Counted) (p : PaymentId) :
    s.db.announced p .succeeded + s.db.announced p .failed ≤ 1 := by
  have hp := h.2 p
  cases hv : view s.db p with
  | none =>
    rw [hv] at hp
    exact (le_of_eq hp).trans (Nat.zero_le _)
  | some v =>
    rw [hv] at hp
    exact hp.1

/-- In a run without silent outcomes, whose workers decide no payment again, every transaction
announces the outcomes it moves payments into, and no payment is announced SUCCEEDED twice or
FAILED twice. -/
theorem run_announces {env : Env} {db : Db} (hblank : db.Blank) (hempty : db.outboxEvents = [])
    {as : List Action} (hrun : Machine.Along (State.step env)
      (fun s a => a.Heard env s ∧ a.DecidesOnce s) (.start db) as) :
    Machine.Along (State.step env) (fun s a => s.db.Announces (s.step env a).db) (.start db) as ∧
      ∀ p, (Machine.run (State.step env) (.start db) as).db.announced p .succeeded ≤ 1 ∧
        (Machine.run (State.step env) (.start db) as).db.announced p .failed ≤ 1 := by
  have hstart := hblank.counted hempty
  have hcounted : (Machine.run (State.step env) (.start db) as).Counted :=
    hrun.invariant (fun _ _ h ha => h.step ha.2) hstart
  refine ⟨?_, fun p => ?_⟩
  · exact Machine.Along.of_invariant (I := State.Counted) (fun _ _ h ha => h.step ha.2)
      (fun _ _ h ha => State.step_announces h.1 ha.1) hstart hrun
  · have honce := hcounted.once p
    omega

/-- A payment of 60 USD is charged, and settled. -/
def Action.chargeOnce : List Action :=
  [.openPayment 0 (.sample "key" 60), .insertRequest 0 0, .commitPayment 0 0, .mark 0 ⟨0, 1⟩,
    .read 0, .charge 0 ⟨.succeeded, some "ref"⟩, .finalize 0]

/-- A charge that succeeds is announced once. -/
theorem run_announces_sample :
    Machine.Along (State.step .sample) (fun s a => s.db.Announces (s.step .sample a).db)
        (.start (.sample [.sample])) Action.chargeOnce ∧
      ∀ p, (Machine.run (State.step .sample) (.start (.sample [.sample]))
          Action.chargeOnce).db.announced p .succeeded ≤ 1 ∧
        (Machine.run (State.step .sample) (.start (.sample [.sample]))
          Action.chargeOnce).db.announced p .failed ≤ 1 :=
  run_announces (Db.sample_blank _) rfl (by decide +kernel)

/-- The refund of the whole payment leaves it REFUNDED and announces nothing; and a worker that
takes up a payment that is SUCCEEDED announces it again. -/
theorem outcomes_unannounced :
    (¬ Machine.Along (State.step .sample) (fun s a => s.db.Announces (s.step .sample a).db)
      (.start (.sample [.sample]))
      (Action.chargeOnce ++ [.refund 0 ⟨60, 0⟩ "USD" ⟨0, 1⟩ .succeeded])) ∧
    (Machine.run (State.step .sample) (.start (.sample [.sample]))
      (Action.chargeOnce ++ [.mark 0 ⟨0, 1⟩, .read 1, .finalize 1])).db.announced 0 .succeeded =
        2 := by
  refine ⟨fun hrun => ?_, by decide +kernel⟩
  obtain ⟨-, ⟨events, houtbox, hannounces⟩, -⟩ := Machine.along_append.mp hrun
  generalize hs : Machine.run (State.step .sample) (.start (.sample [.sample])) Action.chargeOnce =
    s at houtbox hannounces
  have hquiet : (s.step .sample (.refund 0 ⟨60, 0⟩ "USD" ⟨0, 1⟩ .succeeded)).db.outboxEvents =
      s.db.outboxEvents := by
    subst hs
    decide +kernel
  have hafter : ((s.step .sample (.refund 0 ⟨60, 0⟩ "USD" ⟨0, 1⟩ .succeeded)).db.payments.get?
      0).map (·.status) = some .refunded := by
    subst hs
    decide +kernel
  have hbefore : (s.db.payments.get? 0).map (·.status) = some .succeeded := by
    subst hs
    decide +kernel
  obtain ⟨payment, hp, hstatus⟩ := Option.map_eq_some_iff.mp hafter
  obtain rfl : events = [] := by simpa [hquiet] using houtbox
  have hcount := hannounces 0 payment hp (by rw [hstatus]; decide)
    (by rw [hbefore, hstatus]; decide)
  cases hcount

end AgentPay
