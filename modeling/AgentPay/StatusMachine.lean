import AgentPay.Coherence
import AgentPay.Terminal

/-!
# The statuses a payment goes through

`update_status` writes whatever status it is given, and what a payment can go through is left to
its callers. `PaymentStatus.next` is what all of them together let a payment go through from before
the first payment on, edge by edge: no step goes another way, and some run goes each of them. An
approval is decided only where the server takes the lock of `payment_request`.
-/

namespace AgentPay

open Support

/-- The statuses that follow one, on a server that does or does not lock outer joins; `none` is
before the payment. -/
def PaymentStatus.next (locks : Bool) : Option PaymentStatus → List PaymentStatus
  | none                         => [.failed, .approvalRequired, .processing]
  | some .approvalRequired       => if locks then [.processing, .failed] else []
  | some .processing             => [.unknownExternalOutcome, .succeeded, .failed]
  | some .unknownExternalOutcome => [.processing, .succeeded, .failed]
  | some .failed                 => [.processing]
  | some .succeeded              => [.processing, .unknownExternalOutcome, .refundFailed, .refunded]
  | some .refundFailed           => [.processing, .unknownExternalOutcome, .succeeded, .refunded]
  | some .refunded               => [.processing]
  | some _                       => []

/-- The status of a payment, if there is one. -/
def State.statusOf (s : State) (p : PaymentId) : Option PaymentStatus :=
  (s.db.payments.get? p).map (·.status)

/-- The step changes the status of the payment. -/
def State.Changes (env : Env) (s : State) (a : Action) (p : PaymentId)
    (before : Option PaymentStatus) (after : PaymentStatus) : Prop :=
  s.statusOf p = before ∧ (s.step env a).statusOf p = some after ∧ before ≠ some after

instance (env : Env) (s : State) (a : Action) (p : PaymentId) (before : Option PaymentStatus)
    (after : PaymentStatus) : Decidable (s.Changes env a p before after) :=
  inferInstanceAs (Decidable (_ ∧ _ ∧ _))

/-! ### No other way -/

/-- The operations of `approve_payment` and `deny_payment`. -/
def PaymentOp.Decides (op : PaymentOp) : Prop := op = .approve ∨ op = .deny

/-- What is so of the status of every payment: it is one of seven, it waits for an approval only
without a reservation, and it is REFUNDED only with nothing left to refund. -/
structure PaymentView.Underway (v : PaymentView) : Prop where
  status : v.status ∈ [.approvalRequired, .processing, .unknownExternalOutcome, .succeeded,
    .failed, .refundFailed, .refunded]
  waiting : v.status = .approvalRequired → v.reservation = none
  exhausted : v.Exhausted

section Machine

variable {v v' : PaymentView} {op : PaymentOp}

lemma PaymentView.Created.underway (h : v.Created) : v.Underway := by
  rcases h.state with ⟨hs, hr, -⟩ | ⟨hs, hr, -⟩ | ⟨hs, -, -⟩
  · exact ⟨by simp [hs], fun _ => hr, fun h => by simp [hs] at h⟩
  · exact ⟨by simp [hs], fun _ => hr, fun h => by simp [hs] at h⟩
  · exact ⟨by simp [hs], fun h => by simp [hs] at h, fun h => by simp [hs] at h⟩

/-- A payment is refunded from SUCCEEDED or REFUND_FAILED. -/
lemma PaymentView.Refundable.source {k : Decimal × String} {raw : String} {amount : Amount}
    (h : v.Refundable k raw amount) (hv : v.Underway) :
    v.status = .succeeded ∨ v.status = .refundFailed := by
  rcases h.status with hs | hs | hs
  · exact .inl hs
  · exact .inr hs
  · have hwithin := h.within
    rw [hv.exhausted hs, sub_self] at hwithin
    exact absurd h.pos (not_lt.mpr hwithin)

/-- A step of the machine keeps the status or follows an edge. -/
lemma PaymentStep.follows (locks : Bool) (h : PaymentStep op v v') (hreg : v.Regular)
    (hv : v.Underway) (hlocks : op.Decides → locks = true) :
    v'.status = v.status ∨ v'.status ∈ PaymentStatus.next locks (some v.status) := by
  have hnot (hs : v.status = .authorized) : False := by simpa [hs] using hv.status
  have hresolvable (hs : v.status.Resolvable) : v.status.Executable := by
    have hmem := hv.status
    revert hs hmem
    cases v.status <;> decide
  have hdecides (hs : v.status.Executable) :
      .succeeded ∈ PaymentStatus.next locks (some v.status) ∧
        .failed ∈ PaymentStatus.next locks (some v.status) := by
    revert hs
    cases locks <;> cases v.status <;> decide
  cases h with
  | mark hres =>
    have hstatus := hv.status
    have hwaiting : v.status ≠ .approvalRequired := fun hs => by simp [hv.waiting hs] at hres
    show .processing = v.status ∨ .processing ∈ PaymentStatus.next locks (some v.status)
    revert hstatus hwaiting
    cases locks <;> cases v.status <;> decide
  | finalizeUnknown hexec =>
    show .unknownExternalOutcome = v.status ∨
      .unknownExternalOutcome ∈ PaymentStatus.next locks (some v.status)
    revert hexec
    cases locks <;> cases v.status <;> decide
  | finalizeFailed hexec => exact .inr (hdecides hexec).2
  | finalizeSucceeded hexec => exact .inr (hdecides hexec).1
  | eventFailed hopen => exact .inr (hdecides (hresolvable hopen)).2
  | eventSucceeded hopen => exact .inr (hdecides (hresolvable hopen)).1
  | captureUnknown ha | captureFailed ha | captureSucceeded ha | voidUnknown ha | voidFailed ha
  | voidSucceeded ha => exact (hnot ha).elim
  | refundUnknown hrefund =>
    rcases hrefund.source hv with hs | hs <;>
      simp [hs, PaymentView.putRefund, PaymentStatus.next]
  | refundFailed hrefund =>
    rcases hrefund.source hv with hs | hs <;>
      simp [hs, PaymentView.putRefund, PaymentStatus.next]
  | refundSucceeded hrefund =>
    simp only [PaymentView.postRefund, PaymentView.putRefund]
    rcases hrefund.source hv with hs | hs <;> split_ifs <;> simp [hs, PaymentStatus.next]
  | approve _ hs => exact .inr (by simp [hs, PaymentStatus.next, hlocks (.inl rfl)])
  | deny hpending =>
    exact .inr (by simp [(hreg.waiting hpending).1, PaymentStatus.next, hlocks (.inr rfl)])

lemma PaymentView.Underway.step (hv : v.Underway) (hreg : v.Regular) (h : PaymentStep op v v') :
    v'.Underway where
  status := by
    rcases h.follows true hreg hv fun _ => rfl with hs | hs
    · exact hs ▸ hv.status
    · have hmem := hv.status
      revert hs hmem
      cases v.status <;> cases v'.status <;> decide
  waiting hs := by
    cases h with
    | refundSucceeded =>
      simp only [PaymentView.postRefund, PaymentView.putRefund] at hs
      split_ifs at hs
    | _ => cases hs
  exhausted := h.exhausted

end Machine

/-- In every state that occurs the statuses are the seven. -/
lemma State.Occurs.underway {env : Env} {s : State} (h : s.Occurs env) :
    s.Views PaymentView.Underway :=
  h.views (fun _ hv => hv.underway) fun _ _ _ hreg hv hstep => hv.step hreg hstep

/-- The status of a payment is in its view. -/
lemma State.statusOf_eq {s : State} (h : s.db.Sound) (p : PaymentId) :
    s.statusOf p = (view s.db p).map (·.status) := by
  rw [statusOf]
  cases hp : s.db.payments.get? p with
  | none => simp [view, hp]
  | some payment =>
    obtain ⟨request, hrequest⟩ := h.request p payment hp
    rw [view_eq_some.mpr ⟨payment, request, hp, hrequest, rfl⟩]
    rfl

/-- A step that decides an approval changes nothing where the lock is refused. -/
lemma State.step_refused {env : Env} (hlocks : env.locksOuterJoins = false) {s : State} {a : Action}
    {p : PaymentId} {op : PaymentOp} (htarget : a.target env s = some (p, op))
    (hop : op.Decides) : (s.step env a).db = s.db := by
  cases a with
  | approve now id reason authorization =>
    cases hrun : approvePayment env now s.db id reason authorization with
    | error e => simp [step, commit, hrun, Db.commit, Except.map]
    | ok x => exact absurd ((approvePayment_locks hrun).symm.trans hlocks) (by decide)
  | deny id reason authorization =>
    cases hrun : denyPayment env s.db id reason authorization with
    | error e => simp [step, commit, hrun, Db.commit, Except.map]
    | ok x => exact absurd ((denyPayment_locks hrun).symm.trans hlocks) (by decide)
  | finalize w =>
    simp only [Action.target] at htarget
    split at htarget
    · cases htarget
      rcases hop with hop | hop <;> cases hop
    · cases htarget
  | webhook now delivery =>
    obtain ⟨x, -, hx⟩ := Option.map_eq_some_iff.mp htarget
    cases hx
    rcases hop with hop | hop <;> cases hop
  | mark | capture | void | refund =>
    cases htarget
    rcases hop with hop | hop <;> cases hop
  | _ => cases htarget

/-- Every change of a status follows an edge. -/
lemma State.Changes.mem_next {env : Env} {s : State} (hs : s.Occurs env) {a : Action}
    {p : PaymentId} {before : Option PaymentStatus} {after : PaymentStatus}
    (h : s.Changes env a p before after) :
    after ∈ PaymentStatus.next env.locksOuterJoins before := by
  obtain ⟨hbefore, hafter, hne⟩ := h
  have hviews := hs.underway
  rw [statusOf_eq hs.reachable.invariant.sound] at hbefore
  rw [statusOf_eq (hs.step a).reachable.invariant.sound, Option.map_eq_some_iff] at hafter
  obtain ⟨v', hv', rfl⟩ := hafter
  rcases (step_follows hviews.1 env a).view_eq_some hv' with
    hv | ⟨op, v, htarget, hv, hmoves⟩ | ⟨rfl, hcreated⟩
  · rw [hv] at hbefore
    exact absurd hbefore.symm hne
  · have hlocks : op.Decides → env.locksOuterJoins = true := by
      intro hop
      by_contra hlocks
      rw [step_refused (Bool.eq_false_iff.mpr hlocks) htarget hop] at hv'
      rw [hv'] at hbefore
      exact hne hbefore.symm
    rw [hv] at hbefore
    subst hbefore
    rcases hmoves.follows _ (hviews.1.regular p v hv) (hviews.2 p v hv) hlocks with hsame | hnext
    · exact absurd (congrArg some hsame.symm) hne
    · exact hnext
  · rw [view_nextId] at hbefore
    subst hbefore
    rcases hcreated.state with ⟨hs, -⟩ | ⟨hs, -⟩ | ⟨hs, -⟩ <;> simp [hs, PaymentStatus.next]

/-! ### Every other way -/

/-- A run, the step after it, and the change that the step makes to the status of the first
payment. -/
structure Edge where
  rules : SpendingPolicy
  run : List Action
  step : Action
  before : Option PaymentStatus
  after : PaymentStatus

namespace Edge

/-- The sample environment on either kind of server. -/
def env (locks : Bool) : Env := { Env.sample with locksOuterJoins := locks }

/-- The run does what the edge says. -/
def Holds (locks : Bool) (e : Edge) : Prop :=
  (Machine.run (State.step (env locks)) (.start (.sample [e.rules])) e.run).Changes (env locks)
    e.step 0 e.before e.after

instance (locks : Bool) : DecidablePred (Holds locks) := fun e => by
  unfold Holds
  infer_instance

/-- A call for so many dollars is about to commit. -/
def opened (dollars : ℕ) : List Action :=
  [.openPayment 0 (.sample "key" dollars), .insertRequest 0 0]

/-- A payment of 60 USD is there. -/
def created : List Action := opened 60 ++ [.commitPayment 0 0]

/-- Above 10 USD a payment waits for an approval. -/
def cautious : SpendingPolicy :=
  { SpendingPolicy.sample with approvalAbove := some (.finite ⟨10, 0⟩) }

/-- A worker has charged the payment and is about to finalize. -/
def answered (outcome : ProviderOutcome) : List Action :=
  created ++ [.mark 0 ⟨0, 1⟩, .read 0, .charge 0 ⟨outcome, some "ref"⟩]

/-- A worker has charged the payment. -/
def charged (outcome : ProviderOutcome) : List Action := answered outcome ++ [.finalize 0]

/-- Of two workers, the first has heard of no outcome. -/
def raced (outcome : ProviderOutcome) : List Action :=
  created ++ [.mark 0 ⟨0, 1⟩, .mark 0 ⟨0, 1⟩, .read 0, .read 1, .charge 0 ⟨.unknown, some "ref"⟩,
    .charge 1 ⟨outcome, some "ref"⟩, .finalize 0]

/-- `refund` of so many dollars. -/
def refund (dollars : ℕ) (outcome : ProviderOutcome) : Action :=
  .refund 0 ⟨dollars, 0⟩ "USD" ⟨0, 1⟩ outcome

/-- The provider has refused a refund of 5 USD. -/
def refused : List Action := charged .succeeded ++ [refund 5 .failed]

/-- All is refunded. -/
def refunded : List Action := charged .succeeded ++ [refund 60 .succeeded]

/-- A late worker takes the payment up. -/
def late (run : List Action) (before : PaymentStatus) : Edge :=
  ⟨.sample, run, .mark 0 ⟨0, 1⟩, some before, .processing⟩

/-- A run for each decision of an approval. -/
def decisions : List Edge :=
  [⟨cautious, created, .approve 10 0 none (some "Bearer approver"), some .approvalRequired,
      .processing⟩,
    ⟨cautious, created, .deny 0 none (some "Bearer approver"), some .approvalRequired, .failed⟩]

/-- A run for each other edge. -/
def samples : List Edge :=
  [⟨.sample, opened 600, .commitPayment 0 0, none, .failed⟩,
    ⟨cautious, opened 60, .commitPayment 0 0, none, .approvalRequired⟩,
    ⟨.sample, opened 60, .commitPayment 0 0, none, .processing⟩,
    ⟨.sample, answered .unknown, .finalize 0, some .processing, .unknownExternalOutcome⟩,
    ⟨.sample, answered .succeeded, .finalize 0, some .processing, .succeeded⟩,
    ⟨.sample, answered .failed, .finalize 0, some .processing, .failed⟩,
    late (charged .unknown) .unknownExternalOutcome,
    ⟨.sample, raced .succeeded, .finalize 1, some .unknownExternalOutcome, .succeeded⟩,
    ⟨.sample, raced .failed, .finalize 1, some .unknownExternalOutcome, .failed⟩,
    late (charged .failed) .failed,
    late (charged .succeeded) .succeeded,
    ⟨.sample, charged .succeeded, refund 5 .unknown, some .succeeded, .unknownExternalOutcome⟩,
    ⟨.sample, charged .succeeded, refund 5 .failed, some .succeeded, .refundFailed⟩,
    ⟨.sample, charged .succeeded, refund 60 .succeeded, some .succeeded, .refunded⟩,
    late refused .refundFailed,
    ⟨.sample, refused, refund 60 .unknown, some .refundFailed, .unknownExternalOutcome⟩,
    ⟨.sample, refused, refund 6 .succeeded, some .refundFailed, .succeeded⟩,
    ⟨.sample, refused, refund 60 .succeeded, some .refundFailed, .refunded⟩,
    late refunded .refunded]

lemma decisions_hold : ∀ e ∈ decisions, e.Holds true := by
  decide +kernel

lemma samples_hold : ∀ locks, ∀ e ∈ samples, e.Holds locks := by
  decide +kernel

/-- No edge is missing. -/
lemma exists_sample {locks : Bool} {before : Option PaymentStatus} {after : PaymentStatus}
    (h : after ∈ PaymentStatus.next locks before) :
    ∃ e : Edge, e.Holds locks ∧ e.before = before ∧ e.after = after := by
  have hsamples : (∃ e ∈ samples, e.before = before ∧ e.after = after) ∨
      locks = true ∧ ∃ e ∈ decisions, e.before = before ∧ e.after = after := by
    revert h
    cases locks <;> rcases before with - | before
    · cases after <;> decide
    · cases before <;> cases after <;> decide
    · cases after <;> decide
    · cases before <;> cases after <;> decide
  rcases hsamples with ⟨e, he, hedge⟩ | ⟨rfl, e, he, hedge⟩
  · exact ⟨e, samples_hold locks e he, hedge⟩
  · exact ⟨e, decisions_hold e he, hedge⟩

end Edge

/-- The changes of a payment's status in the states that occur are the edges of
`PaymentStatus.next`: no step of any run makes another, and each of them is made in some run. The
two edges from APPROVAL_REQUIRED are edges only where the server takes the lock of
`payment_request`; PostgreSQL refuses it, and there the status is never left. -/
theorem statusChanges_iff (locks : Bool) (before : Option PaymentStatus) (after : PaymentStatus) :
    (∃ env s a p, env.locksOuterJoins = locks ∧ State.Occurs env s ∧
        s.Changes env a p before after) ↔
      after ∈ PaymentStatus.next locks before := by
  constructor
  · rintro ⟨env, s, a, p, rfl, hs, hchanges⟩
    exact hchanges.mem_next hs
  · intro h
    obtain ⟨e, he, rfl, rfl⟩ := Edge.exists_sample h
    exact ⟨Edge.env locks, _, e.step, 0, rfl, ⟨_, e.run, Db.sample_fresh _, rfl⟩, he⟩

end AgentPay
