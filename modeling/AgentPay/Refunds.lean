import AgentPay.LateOutcome

/-!
# A refund sent again

The identity of a refund is the text of its amount: the row of a refund is found under the amount
as it is spelled. A refund sent again under its own spelling is answered from that row. Under
another spelling of the same amount it is another refund.
-/

namespace AgentPay

open Support

/-- The arguments of `refund`. -/
structure Refund where
  paymentId : PaymentId
  amount : Decimal
  currency : String
  accounts : LedgerAccounts
  deriving DecidableEq, Repr

namespace Refund

/-- `refund` as far as it gets without the provider. -/
def progress (r : Refund) (db : Db) : Except Error Progress :=
  PaymentLifecycle.refund db r.paymentId r.amount r.currency r.accounts

/-- `refund`, with the answer that the provider gives if it is asked. -/
def run (r : Refund) (db : Db) (outcome : ProviderOutcome) : Except Error (PaymentStatus × Db) :=
  r.progress db >>= Progress.answer outcome

def step (env : Env) (s : State) (x : Refund × ProviderOutcome) : State :=
  s.step env (.refund x.1.paymentId x.1.amount x.1.currency x.1.accounts x.2)

/-- The provider is asked for a refund. -/
def Calls (r : Refund) (db : Db) : Prop :=
  ∃ call answered, r.progress db = .ok (.calling call answered)

/-- The amount and the currency that the row of the refund is filed under. -/
def key (r : Refund) : Decimal × String := (r.amount, normCurrency r.currency)

/-- The status of the row stored for the refund. -/
def row (r : Refund) (db : Db) : Option TransactionStatus :=
  (db.transactions.row? (.refund r.paymentId r.key.1 r.key.2)).map (·.status)

/-- What is left of the captured amount. -/
def left (r : Refund) (db : Db) : ℚ :=
  PaymentLifecycle.postedSum db r.paymentId .capture -
    PaymentLifecycle.postedSum db r.paymentId .refund

/-- The payment can be refunded, no settled row is stored under the spelling of the refund, and the
amount is left. -/
structure Reopens (r : Refund) (db : Db) : Prop where
  status : ∃ payment, db.payments.get? r.paymentId = some payment ∧
    payment.status ∈ [.succeeded, .refundFailed, .refunded]
  unsettled : r.row db = none ∨ r.row db = some .pending
  within : r.amount.units ≤ r.left db

/-- `r'` is a numerically equal amount of the same payment in the same currency. -/
structure Resends (r' r : Refund) : Prop where
  payment : r'.paymentId = r.paymentId
  amount : r'.amount.units = r.amount.units
  currency : normCurrency r'.currency = normCurrency r.currency

/-! ### One call -/

/-- An operation is filed, or found, under its own key. -/
lemma createProviderOperation_ok {db : Db} (h : db.Sound) (key : OperationKey) :
    ∃ id db', PaymentRepository.createProviderOperation db key.paymentId key.operationType key =
      .ok (id, db') ∧ db'.transactions = db.transactions := by
  cases hinsert : db.providerOperations.insert?
    (PaymentRepository.newOperation key.paymentId key.operationType key) with
  | some operations =>
    refine ⟨db.providerOperations.nextId, PaymentRepository.setProviderOperation
      { db with providerOperations := operations } key.paymentId db.providerOperations.nextId, ?_,
      rfl⟩
    rw [PaymentRepository.createProviderOperation, hinsert]
  | none =>
    obtain ⟨o, ho⟩ := Option.isSome_iff_exists.mp
      (Table.row?_of_insert?_none (k := key) hinsert rfl)
    obtain ⟨⟨id, o'⟩, hfind, rfl⟩ := Option.map_eq_some_iff.mp ho
    have hkey : o'.idempotencyKey = key := Option.some.inj (Table.find?_eq_some.mp hfind).2
    have hfiled := (h.operation o' (Table.mem_of_get? (Table.find?_eq_some.mp hfind).1)).1
    have hsame : ¬ (o'.paymentId ≠ key.paymentId ∨ o'.operationType ≠ key.operationType) := by
      rw [hfiled.payment, hfiled.type, hkey]
      simp
    refine ⟨id, PaymentRepository.setProviderOperation db key.paymentId id, ?_, rfl⟩
    simp only [PaymentRepository.createProviderOperation, hinsert, hfind]
    exact if_neg hsame

lemma createTransaction_ok (db : Db) (p : PaymentId) (type : TransactionType) {amount : Decimal}
    {stored : Amount} (hstored : Amount.store amount = .ok stored) (currency : String)
    (key : TransactionKey) (status : TransactionStatus) : ∃ x,
      PaymentLifecycle.createTransaction db p type amount currency key status = .ok x := by
  cases hid : db.transactions.idOf? key with
  | some id => exact ⟨(id, db), by rw [PaymentLifecycle.createTransaction, hid]⟩
  | none =>
    obtain ⟨transactions, hinsert, -⟩ := Table.insert?_of_idOf?_none (t := db.transactions)
      (k := key) (r := PaymentLifecycle.newTransaction p type stored currency key status) rfl hid
    refine ⟨(db.transactions.nextId, { db with transactions }), ?_⟩
    simp only [PaymentLifecycle.createTransaction, hid, hstored, bind, Except.bind, hinsert]
    rfl

section Call

variable {db : Db} {r : Refund} {payment : Payment}
  (hp : db.payments.get? r.paymentId = some payment)
  (hstatus : payment.status ∈ [.succeeded, .refundFailed, .refunded])
  (hpos : 0 < r.amount.units)
  (hcurrency : normCurrency r.currency = normCurrency payment.currency)

include hp hstatus hpos hcurrency

/-- A settled row answers. -/
lemma progress_settled {status : TransactionStatus} (hrow : r.row db = some status)
    {answer : PaymentStatus}
    (hanswer : PaymentLifecycle.refundReplayStatus status (r.left db) = some answer) :
    r.progress db = .ok (.returned answer db) := by
  obtain ⟨t, ht, rfl⟩ := Option.map_eq_some_iff.mp hrow
  obtain ⟨⟨i, t'⟩, hfind, rfl⟩ := Option.map_eq_some_iff.mp ht
  have hvalid : PaymentLifecycle.validateRefundAmount r.amount r.currency payment =
      .ok (normCurrency r.currency) := by
    rw [PaymentLifecycle.validateRefundAmount, if_neg (not_le.mpr hpos),
      if_neg (not_not.mpr hcurrency)]
  have hfind' : db.transactions.find? (.refund r.paymentId r.amount (normCurrency r.currency)) =
      some (i, t') := hfind
  simp only [progress, PaymentLifecycle.refund, hp]
  rw [if_neg (not_not.mpr hstatus), hvalid]
  simp only [bind, Except.bind, hfind', Option.bind]
  simp only [left] at hanswer
  simp only [hanswer]
  rfl

/-- Without a settled row a refund that fits goes to the provider. -/
lemma progress_unsettled (hs : db.Sound)
    (hunsettled : r.row db = none ∨ r.row db = some .pending) (hwithin : r.amount.units ≤ r.left db)
    {stored : Amount} (hstored : Amount.store r.amount = .ok stored) {minor : ℤ}
    (hminor : PaymentLifecycle.amountMinor r.amount = .ok minor) : r.Calls db := by
  have hvalid : PaymentLifecycle.validateRefundAmount r.amount r.currency payment =
      .ok (normCurrency r.currency) := by
    rw [PaymentLifecycle.validateRefundAmount, if_neg (not_le.mpr hpos),
      if_neg (not_not.mpr hcurrency)]
  have hreplayed : ((db.transactions.find? (.refund r.paymentId r.amount
      (normCurrency r.currency))).bind fun x =>
        PaymentLifecycle.refundReplayStatus x.2.status (r.left db)) = none := by
    cases hfind : db.transactions.find?
      (.refund r.paymentId r.amount (normCurrency r.currency)) with
    | none => rfl
    | some x =>
      have hrow : r.row db = some x.2.status := by
        rw [row, Table.row?, key, hfind, Option.map_some, Option.map_some]
      have hpending : x.2.status = .pending := by simpa [hrow] using hunsettled
      rw [Option.bind_some, hpending]
      rfl
  obtain ⟨id, db₁, hop, htransactions⟩ := createProviderOperation_ok
    (Effect.updateStatus hs r.paymentId .refundProcessing none).sound
    (.refund r.paymentId r.amount r.currency)
  obtain ⟨x, hcreate⟩ := createTransaction_ok db₁ r.paymentId .refund hstored
    (normCurrency r.currency) (.refund r.paymentId r.amount (normCurrency r.currency)) .pending
  refine ⟨⟨.refund, r.paymentId, minor, normCurrency r.currency,
    .refund r.paymentId r.amount r.currency⟩, PaymentLifecycle.refundAnswered x.2 r.paymentId x.1
      r.amount (normCurrency r.currency) r.currency r.accounts
      (PaymentLifecycle.postedSum db r.paymentId .capture)
      (PaymentLifecycle.postedSum db r.paymentId .refund), ?_⟩
  have hop' : PaymentRepository.createProviderOperation
      (PaymentRepository.updateStatus db r.paymentId .refundProcessing none) r.paymentId .refund
      (.refund r.paymentId r.amount r.currency) = .ok (id, db₁) := hop
  simp only [progress, PaymentLifecycle.refund, hp]
  rw [if_neg (not_not.mpr hstatus), hvalid]
  simp only [bind, Except.bind]
  simp only [left] at hreplayed hwithin
  rw [hreplayed]
  simp only [if_neg (not_lt.mpr hwithin), hop', hcreate, hminor]
  rfl

end Call

/-- What a replay says of the stored row. -/
lemma progress_returned {db db' : Db} {r : Refund} {answer : PaymentStatus}
    (h : r.progress db = .ok (.returned answer db')) :
    db' = db ∧ ∃ payment status, db.payments.get? r.paymentId = some payment ∧
      payment.status ∈ [.succeeded, .refundFailed, .refunded] ∧ 0 < r.amount.units ∧
      normCurrency r.currency = normCurrency payment.currency ∧ r.row db = some status ∧
      PaymentLifecycle.refundReplayStatus status (r.left db) = some answer := by
  simp only [progress, PaymentLifecycle.refund] at h
  split at h
  · cases h
  rename_i payment hp
  by_cases hstatus : payment.status ∉ [.succeeded, .refundFailed, .refunded]
  · rw [if_pos hstatus] at h
    cases h
  rw [if_neg hstatus] at h
  obtain ⟨currency, hvalid, h⟩ := Except.bind_eq_ok.mp h
  obtain ⟨hpos, rfl, hcurrency⟩ := PaymentLifecycle.validateRefundAmount_eq_ok hvalid
  split at h
  · rename_i status hreplay
    obtain ⟨rfl, rfl⟩ := Progress.returned.inj (Except.ok.inj h)
    obtain ⟨⟨i, t⟩, hfind, hanswer⟩ := Option.bind_eq_some_iff.mp hreplay
    refine ⟨rfl, payment, t.status, hp, not_not.mp hstatus, hpos, hcurrency, ?_, hanswer⟩
    rw [row, Table.row?, key, hfind, Option.map_some, Option.map_some]
  · split_ifs at h
    obtain ⟨_, -, h⟩ := Except.bind_eq_ok.mp h
    obtain ⟨_, -, h⟩ := Except.bind_eq_ok.mp h
    obtain ⟨_, -, h⟩ := Except.bind_eq_ok.mp h
    cases h

/-! ### Amounts in cents -/

/-- The amount is a whole number of cents. -/
def Cents (amount : Decimal) : Prop :=
  ∃ minor, PaymentLifecycle.amountMinor amount = .ok minor

lemma cents_iff {amount : Decimal} :
    Cents amount ↔ 0 < amount.units ∧ ∃ n : ℤ, amount.units = 100 * n := by
  have hpow : (10 : ℚ) ^ amount.scale ≠ 0 := by positivity
  have hwhole : (amount.coeff * 100) % 10 ^ amount.scale = 0 ↔
      ∃ n : ℤ, amount.units = 100 * n := by
    rw [← Int.dvd_iff_emod_eq_zero]
    refine exists_congr fun n => ?_
    rw [Decimal.units, div_eq_iff hpow]
    constructor
    · intro h
      have hcast : (amount.coeff : ℚ) * 100 = 10 ^ amount.scale * n := by exact_mod_cast h
      linarith
    · intro h
      have hcast : (amount.coeff : ℚ) * 100 = 10 ^ amount.scale * n := by linarith
      exact_mod_cast hcast
  rw [← hwhole]
  simp only [Cents, PaymentLifecycle.amountMinor]
  split_ifs with hpos hcents
  · simp [hpos]
  · simp [hcents]
  · simp [not_le.mp hpos, not_not.mp hcents]

/-- Spelling does not matter to it. -/
lemma Cents.congr {a b : Decimal} (h : a.units = b.units) (ha : Cents a) : Cents b := by
  rw [cents_iff, ← h]
  exact cents_iff.mp ha

/-! ### One step -/

section Step

variable {env : Env} {s : State} {r : Refund} {outcome : ProviderOutcome}

lemma step_of_run {status : PaymentStatus} {db : Db}
    (h : r.run s.db outcome = .ok (status, db)) : (step env s (r, outcome)).db = db := by
  simp only [run, progress] at h
  simp only [step, State.step, State.commit, h, Except.map]
  rfl

lemma calls_of_call {db : Db} {call : ProviderCall}
    (h : (r.progress db).map Progress.call? = .ok (some call)) : r.Calls db := by
  cases hprogress : r.progress db with
  | error e => simp [hprogress, Except.map] at h
  | ok progress =>
    cases progress with
    | returned status db' => simp [hprogress, Except.map, Progress.call?] at h
    | calling call answered => exact ⟨call, answered, hprogress⟩

/-- The provider is asked about a refund that reopens. -/
lemma Calls.reopens {db : Db} (h : r.Calls db) : r.Reopens db ∧ Cents r.amount := by
  obtain ⟨call, answered, h⟩ := h
  rcases PaymentLifecycle.refund_eq_ok h with ⟨_, hreturned, -⟩ | ⟨payment, id, db₁, refundId, db₂,
    minor, hp, hstatus, -, -, hpending, hwithin, -, -, hminor, -⟩
  · cases hreturned
  · refine ⟨⟨⟨payment, hp, hstatus⟩, ?_, hwithin⟩, minor, hminor⟩
    cases hrow : db.transactions.row? (.refund r.paymentId r.key.1 r.key.2) with
    | none => exact .inl (by rw [row, hrow]; rfl)
    | some t => exact .inr (by rw [row, hrow, Option.map_some, hpending t hrow])

/-- A refund that does not ask the provider leaves the state as it was. -/
lemma step_of_not_calls (h : ¬ r.Calls s.db) : step env s (r, outcome) = s := by
  have hcommit : s.db.commit ((r.run s.db outcome).map (·.2)) = s.db := by
    cases hprogress : r.progress s.db with
    | error e => simp [run, hprogress, Except.map, bind, Except.bind]
    | ok progress =>
      cases progress with
      | returned status db =>
        obtain ⟨rfl, -⟩ := progress_returned hprogress
        simp [run, hprogress, Except.map, bind, Except.bind, Progress.answer]
      | calling call answered => exact absurd ⟨call, answered, hprogress⟩ h
  simp only [run, progress] at hcommit
  simp only [step, State.step, State.commit, hcommit]

/-- Where a view comes from after a refund. -/
lemma step_view (hs : s.db.Sound) {q : PaymentId} {v' : PaymentView}
    (hv' : view (step env s (r, outcome)).db q = some v') :
    view s.db q = some v' ∨ q = r.paymentId ∧ Cents r.amount ∧ ∃ v stored,
      view s.db q = some v ∧ v.Refundable r.key r.currency stored ∧
      v' = v.answerRefund r.key r.currency stored outcome := by
  by_cases hcalls : r.Calls s.db
  · obtain ⟨call, answered, hprogress⟩ := id hcalls
    cases hanswered : answered outcome with
    | error e =>
      have hsame : (step env s (r, outcome)).db = s.db := by
        simp only [progress] at hprogress
        simp only [step, State.step, State.commit, hprogress, bind, Except.bind, Progress.answer,
          hanswered]
        rfl
      exact .inl (hsame ▸ hv')
    | ok x =>
      have hanswer : answered outcome = .ok (x.1, x.2) := hanswered
      obtain ⟨v, stored, f, hv, hrefundable, -, heffect, hf⟩ :=
        PaymentLifecycle.refund_effect hs hprogress hanswer
      have hrun : r.run s.db outcome = .ok (x.1, x.2) := by
        simp [run, hprogress, bind, Except.bind, Progress.answer, hanswered]
      rw [step_of_run hrun] at hv'
      by_cases hq : q = r.paymentId
      · subst hq
        refine .inr ⟨rfl, hcalls.reopens.2, v, stored, hv, hrefundable, ?_⟩
        rw [heffect.view_some hv] at hv'
        exact (Option.some.inj hv').symm.trans hf
      · exact .inl (by rw [← heffect.others q hq, hv'])
  · rw [step_of_not_calls hcalls] at hv'
    exact .inl hv'

/-- A refund that returned was answered by its row or by the provider. -/
lemma run_cases (hs : s.db.Sound) {status : PaymentStatus} {db : Db}
    (h : r.run s.db outcome = .ok (status, db)) :
    (∃ payment t, s.db.payments.get? r.paymentId = some payment ∧
      payment.status ∈ [.succeeded, .refundFailed, .refunded] ∧ 0 < r.amount.units ∧
      normCurrency r.currency = normCurrency payment.currency ∧ r.row s.db = some t ∧
      PaymentLifecycle.refundReplayStatus t (r.left s.db) = some status ∧ db = s.db) ∨
    r.Calls s.db ∧ status = outcome.refundStatus ∧ ∃ v stored,
      view s.db r.paymentId = some v ∧ v.Refundable r.key r.currency stored ∧
      view db r.paymentId = some (v.answerRefund r.key r.currency stored outcome) := by
  obtain ⟨progress, hprogress, hanswer⟩ := Except.bind_eq_ok.mp h
  cases progress with
  | returned status' db' =>
    obtain ⟨rfl, payment, t, hp, hstatus, hpos, hcurrency, hrow, hreplay⟩ :=
      progress_returned hprogress
    obtain ⟨rfl, rfl⟩ := by simpa [Progress.answer] using hanswer
    exact .inl ⟨payment, t, hp, hstatus, hpos, hcurrency, hrow, hreplay, rfl⟩
  | calling call answered =>
    obtain ⟨v, stored, f, hv, hrefundable, hstatus, heffect, hf⟩ :=
      PaymentLifecycle.refund_effect hs hprogress hanswer
    refine .inr ⟨⟨call, answered, hprogress⟩, hstatus, v, stored, hv, hrefundable, ?_⟩
    rw [heffect.view_some hv, hf]
    rfl

end Step

/-! ### The rows of every run are in cents -/

def CentRows (db : Db) : Prop :=
  ∀ (p : PaymentId) (v : PaymentView), view db p = some v →
    ∀ k, v.transactions.refund k ≠ none → Cents k.1

lemma answerRefund_refund (k : Decimal × String) (rawCurrency : String) (stored : Amount)
    (v : PaymentView) (outcome : ProviderOutcome) {k' : Decimal × String} (hk : k' ≠ k) :
    (v.answerRefund k rawCurrency stored outcome).transactions.refund k' =
      v.transactions.refund k' := by
  cases outcome <;>
    simp [PaymentView.answerRefund, PaymentView.putRefund, PaymentView.postRefund,
      TransactionView.putRefund, Function.update_of_ne hk]

lemma postCapture_refund (path : CapturePath) (amount : Amount) (v : TransactionView) :
    (v.postCapture path amount).refund = v.refund := by
  rw [TransactionView.postCapture]
  split_ifs <;> rfl

lemma step_centRows {env : Env} {s : State} (hs : s.Invariant) (a : Action)
    (h : CentRows s.db) : CentRows (s.step env a).db := by
  intro p v' hv' k hk
  by_cases hrefund : ∃ (r : Refund) (outcome : ProviderOutcome),
    a = .refund r.paymentId r.amount r.currency r.accounts outcome
  · obtain ⟨r, outcome, rfl⟩ := hrefund
    rcases step_view (r := r) hs.sound hv' with hv | ⟨-, hcents, v, stored, hv, -, rfl⟩
    · exact h p v' hv k hk
    · by_cases hkey : k = r.key
      · rw [hkey]
        exact hcents
      · rw [answerRefund_refund _ _ _ _ _ hkey] at hk
        exact h p v hv k hk
  · rcases (State.step_follows hs env a).view_eq_some hv' with
      hv | ⟨op, v, htarget, hv, hstep⟩ | ⟨-, hcreated⟩
    · exact h p v' hv k hk
    · -- the other operations leave the refunds alone
      have hop : ∀ outcome, op ≠ .refund outcome := by
        rintro outcome rfl
        cases a with
        | refund q amount currency accounts o =>
          exact hrefund ⟨⟨q, amount, currency, accounts⟩, o, rfl⟩
        | finalize w =>
          simp only [Action.target] at htarget
          split at htarget <;> simp at htarget
        | webhook now delivery => simp [Action.target] at htarget
        | approve now id reason authorization => simp [Action.target] at htarget
        | deny id reason authorization => simp [Action.target] at htarget
        | _ => simp [Action.target] at htarget
      have hsame : v'.transactions.refund = v.transactions.refund := by
        cases hstep with
        | refundUnknown | refundFailed | refundSucceeded => exact absurd rfl (hop _)
        | finalizeSucceeded => exact postCapture_refund _ _ _
        | eventSucceeded => exact postCapture_refund _ _ _
        | captureSucceeded => exact postCapture_refund _ _ _
        | _ => rfl
      exact h p v hv k (hsame ▸ hk)
    · rw [hcreated.transactions] at hk
      exact absurd rfl hk

lemma centRows_of_reachable {env : Env} {s : State} (h : s.Reachable env) : CentRows s.db := by
  obtain ⟨db, as, hblank, -, rfl⟩ := h
  have hstart : (State.start db).Invariant ∧ CentRows (State.start db).db := by
    refine ⟨hblank.invariant, fun p v hv k hk => ?_⟩
    rw [(hblank.view hv).transactions] at hk
    exact absurd rfl hk
  exact (Machine.run_invariant (I := fun s : State => s.Invariant ∧ CentRows s.db)
    (fun s a hs => ⟨State.step_invariant hs.1 a, step_centRows hs.1 a hs.2⟩) hstart as).2

/-! ### Runs of refunds -/

section Watch

variable {env : Env} {s : State} {r : Refund}

/-- The payment of a refund, in its currency. -/
def Watched (r : Refund) (s : State) : Prop :=
  s.Invariant ∧ ∃ v, view s.db r.paymentId = some v ∧
    normCurrency r.currency = normCurrency v.currency

/-- If the payment can be refunded, the row of the refund is settled. -/
def Closed (r : Refund) (s : State) : Prop :=
  ∀ v, view s.db r.paymentId = some v →
    v.status = .succeeded ∨ v.status = .refundFailed ∨ v.status = .refunded →
    v.transactions.refund r.key ≠ none ∧ v.transactions.refund r.key ≠ some .pending

lemma Watched.step (h : r.Watched s) (x : Refund × ProviderOutcome) :
    r.Watched (step env s x) := by
  refine ⟨State.step_invariant h.1 _, ?_⟩
  obtain ⟨v, hv, hcurrency⟩ := h.2
  obtain ⟨v', hv', -⟩ := (State.step_follows h.1 env (.refund x.1.paymentId x.1.amount
    x.1.currency x.1.accounts x.2)).view_some hv
  refine ⟨v', hv', ?_⟩
  rcases step_view h.1.sound hv' with hsame | ⟨-, -, w, stored, hw, -, rfl⟩
  · obtain rfl := Option.some.inj (hsame.symm.trans hv)
    exact hcurrency
  · obtain rfl := Option.some.inj (hw.symm.trans hv)
    rw [hcurrency]
    cases x.2 <;> rfl

lemma Closed.step (hs : s.Invariant) (h : r.Closed s) (x : Refund × ProviderOutcome) :
    r.Closed (step env s x) := by
  intro v' hv' hstatus
  rcases step_view hs.sound hv' with hsame | ⟨hq, -, w, stored, hw, hrefundable, rfl⟩
  · exact h v' hsame hstatus
  · have hsettled := h w hw hrefundable.status
    have hkey : r.key ≠ x.1.key := by
      intro hkey
      rw [hkey] at hsettled
      rcases hrefundable.unsettled with hnone | hpending
      · exact hsettled.1 hnone
      · exact hsettled.2 hpending
    rwa [answerRefund_refund _ _ _ _ _ hkey]

/-- A refund that returned is closed. -/
lemma closed_of_run (hs : s.Invariant) {outcome : ProviderOutcome} {status : PaymentStatus}
    {db : Db} (h : r.run s.db outcome = .ok (status, db)) : r.Closed (step env s (r, outcome)) := by
  intro v' hv' hstatus
  rw [step_of_run h] at hv'
  rcases run_cases hs.sound h with ⟨payment, t, -, -, -, -, hrow, hreplay, rfl⟩ |
    ⟨-, -, v, stored, hv, hrefundable, hv₁⟩
  · have hrefund : v'.transactions.refund r.key = some t := by
      rw [(view_tables hv').2.2.1]
      exact hrow
    rw [hrefund]
    refine ⟨by simp, ?_⟩
    intro hpending
    rw [Option.some.inj hpending] at hreplay
    cases hreplay
  · obtain rfl := Option.some.inj (hv₁.symm.trans hv')
    cases outcome with
    | unknown => simp [PaymentView.answerRefund, PaymentView.putRefund] at hstatus
    | failed =>
      simp [PaymentView.answerRefund, PaymentView.putRefund, TransactionView.putRefund]
    | succeeded =>
      simp [PaymentView.answerRefund, PaymentView.putRefund, PaymentView.postRefund,
        TransactionView.putRefund]

lemma Closed.not_reopens (hs : s.Invariant) (h : r.Closed s) : ¬ r.Reopens s.db := by
  rintro ⟨⟨payment, hp, hstatus⟩, hunsettled, -⟩
  obtain ⟨request, hr⟩ := hs.sound.request _ _ hp
  have hv : view s.db r.paymentId = some (viewOf s.db r.paymentId payment request) :=
    view_eq_some.mpr ⟨payment, request, hp, hr, rfl⟩
  have hsettled := h _ hv (by simpa [viewOf] using hstatus)
  rcases hunsettled with hnone | hpending
  · exact hsettled.1 hnone
  · exact hsettled.2 hpending

end Watch

/-! ### A refund sent again -/

/-- The provider is not asked, and nothing changes. -/
structure Replayed (env : Env) (r : Refund) (s : State) : Prop where
  uncalled : ¬ r.Calls s.db
  unchanged : ∀ outcome, step env s (r, outcome) = s

/-- The rows that are stored for `r` and for `r'` once `r` is answered are settled alike, and a
refund that succeeds for the first time refunds what is left. -/
structure Settles (r r' : Refund) (outcome : ProviderOutcome) (before after : Db) : Prop where
  alike : ∃ t, t ≠ .pending ∧ r.row after = some t ∧ r'.row after = some t
  whole : r.Reopens before → outcome = .succeeded → r.left before = r.amount.units

section Resend

variable {env : Env} {s : State} {r r' : Refund} {outcome : ProviderOutcome}
  {status : PaymentStatus} {db : Db}

lemma Resends.watched (h : r'.Resends r) (hw : r.Watched s) : r'.Watched s := by
  obtain ⟨hs, v, hv, hcurrency⟩ := hw
  exact ⟨hs, v, h.payment ▸ hv, h.currency.trans hcurrency⟩

lemma watched_of_run (hs : s.Invariant) (h : r.run s.db outcome = .ok (status, db)) :
    r.Watched s ∧ 0 < r.amount.units := by
  rcases run_cases hs.sound h with ⟨payment, t, hp, -, hpos, hcurrency, -⟩ |
    ⟨hcalls, -, v, stored, hv, hrefundable, -⟩
  · obtain ⟨request, hr⟩ := hs.sound.request _ _ hp
    have hv : view s.db r.paymentId = some (viewOf s.db r.paymentId payment request) :=
      view_eq_some.mpr ⟨payment, request, hp, hr, rfl⟩
    exact ⟨⟨hs, _, hv, hcurrency⟩, hpos⟩
  · obtain ⟨call, answered, hprogress⟩ := hcalls
    rcases PaymentLifecycle.refund_eq_ok hprogress with ⟨_, hreturned, -⟩ | ⟨payment, id, db₁,
      refundId, db₂, minor, hp, hstatus, hpos, hcurrency, -⟩
    · cases hreturned
    · obtain ⟨payment', request, hp', -, rfl⟩ := view_eq_some.mp hv
      obtain rfl := Option.some.inj (hp.symm.trans hp')
      exact ⟨⟨hs, _, hv, hcurrency⟩, hpos⟩

/-- An amount that was refunded once is in cents, and can be stored. -/
lemma payable_of_run (hs : s.Reachable env) (h : r.run s.db outcome = .ok (status, db)) :
    Cents r.amount ∧ ∃ stored, Amount.store r.amount = .ok stored := by
  have hinv := hs.invariant
  rcases run_cases hinv.sound h with ⟨payment, t, hp, -, -, -, hrow, -⟩ |
    ⟨hcalls, -, v, stored, -, hrefundable, -⟩
  · obtain ⟨request, hr⟩ := hinv.sound.request _ _ hp
    have hv : view s.db r.paymentId = some (viewOf s.db r.paymentId payment request) :=
      view_eq_some.mpr ⟨payment, request, hp, hr, rfl⟩
    refine ⟨centRows_of_reachable hs _ _ hv r.key ?_, ?_⟩
    · rw [(view_tables hv).2.2.1]
      rw [row] at hrow
      simp [transactionView, hrow]
    · obtain ⟨tx, htx, -⟩ := Option.map_eq_some_iff.mp hrow
      obtain ⟨hmem, hkey⟩ := Table.row?_eq_some.mp htx
      exact ⟨tx.amount, (hinv.sound.transaction tx hmem).1.amount _ _ _ (Option.some.inj hkey)⟩
  · exact ⟨hcalls.reopens.2, stored, hrefundable.amount⟩

/-- Such an amount goes to the provider exactly when it reopens. -/
lemma calls_iff (hw : r.Watched s) (hpos : 0 < r.amount.units) (hcents : Cents r.amount)
    {stored : Amount} (hstored : Amount.store r.amount = .ok stored) :
    r.Calls s.db ↔ r.Reopens s.db := by
  refine ⟨fun h => h.reopens.1, fun h => ?_⟩
  obtain ⟨hs, v, hv, hcurrency⟩ := hw
  obtain ⟨payment, hp, hstatus⟩ := h.status
  obtain ⟨payment', request, hp', -, rfl⟩ := view_eq_some.mp hv
  obtain rfl := Option.some.inj (hp.symm.trans hp')
  obtain ⟨minor, hminor⟩ := hcents
  exact progress_unsettled hp hstatus hpos hcurrency hs.sound h.unsettled h.within hstored hminor

lemma replayed_iff_not_calls : r.Replayed env s ↔ ¬ r.Calls s.db :=
  ⟨fun h => h.uncalled, fun h => ⟨h, fun _ => step_of_not_calls h⟩⟩

lemma row_of_view {v : PaymentView} (hv : view db r.paymentId = some v) :
    r.row db = v.transactions.refund r.key := by
  rw [(view_tables hv).2.2.1]
  rfl

lemma left_of_view {v : PaymentView} (hv : view db r.paymentId = some v) :
    r.left db = v.transactions.captured - v.transactions.refunded := by
  rw [(view_tables hv).2.2.1]
  rfl

/-- The replay of a stored row, read off the view. -/
lemma run_of_view {v : PaymentView} (hv : view db r.paymentId = some v)
    (hstatus : v.status = .succeeded ∨ v.status = .refundFailed ∨ v.status = .refunded)
    (hpos : 0 < r.amount.units) (hcurrency : normCurrency r.currency = normCurrency v.currency)
    {t : TransactionStatus} (hrow : r.row db = some t)
    (hanswer : PaymentLifecycle.refundReplayStatus t (r.left db) = some status)
    (outcome : ProviderOutcome) : r.run db outcome = .ok (status, db) := by
  obtain ⟨payment, request, hp, -, rfl⟩ := view_eq_some.mp hv
  rw [run, progress_settled hp (by simpa [viewOf] using hstatus) hpos hcurrency hrow hanswer]
  rfl

/-- What a replay answers tells how the row is settled. -/
lemma refundReplayStatus_inj {t t' : TransactionStatus} {left : ℚ}
    (h : PaymentLifecycle.refundReplayStatus t left = some status)
    (h' : PaymentLifecycle.refundReplayStatus t' left = some status) : t' = t := by
  by_cases hzero : left = 0 <;> cases t <;> cases t' <;>
    simp only [PaymentLifecycle.refundReplayStatus, hzero, if_true, if_false] at h h' <;>
    first | rfl | exact absurd (h.trans h'.symm) (by simp)

lemma Cents.units_store {amount : Decimal} (h : Cents amount) {stored : Amount}
    (hstored : Amount.store amount = .ok stored) : (stored.units : ℚ) = amount.units := by
  obtain ⟨-, n, hn⟩ := cents_iff.mp h
  have hround := Amount.store_eq_ok.mp hstored
  have hwhole : amount.units = ((100 * n : ℤ) : ℚ) := by rw [hn]; push_cast; ring
  rw [hwhole, roundUnits_intCast] at hround
  rw [hwhole, ← hround]
  simp

/-- Sent again at once, a refund is answered as it was when the rows agree. -/
lemma run_again_iff (hs : s.Invariant) (hr : r'.Resends r)
    (h : r.run s.db outcome = .ok (status, db)) (hcalls : ¬ r'.Calls db) :
    (∀ outcome', r'.run db outcome' = .ok (status, db)) ↔ r.Settles r' outcome s.db db := by
  have hleft : ∀ db, r'.left db = r.left db := fun db => by rw [left, left, hr.payment]
  obtain ⟨hw, hpos⟩ := watched_of_run hs h
  have hpos' : 0 < r'.amount.units := hr.amount ▸ hpos
  have hreturned : (∀ outcome', r'.run db outcome' = .ok (status, db)) →
      ∃ t, r'.row db = some t ∧
        PaymentLifecycle.refundReplayStatus t (r.left db) = some status := by
    intro hrun
    obtain ⟨progress, hprogress, hanswer⟩ := Except.bind_eq_ok.mp (hrun .unknown)
    cases progress with
    | returned status' db' =>
      obtain ⟨rfl, -, t, -, -, -, -, hrow, hreplay⟩ := progress_returned hprogress
      obtain ⟨rfl, -⟩ := by simpa [Progress.answer] using hanswer
      exact ⟨t, hrow, hleft _ ▸ hreplay⟩
    | calling call answered => exact absurd ⟨call, answered, hprogress⟩ hcalls
  rcases run_cases hs.sound h with ⟨payment, t, hp, hstatus, -, hcurrency, hrow, hreplay, rfl⟩ |
    ⟨hfirst, rfl, v, stored, hv, hrefundable, hv₁⟩
  · have hunopened : ¬ r.Reopens s.db := by
      rintro ⟨-, hunsettled, -⟩
      rw [hrow] at hunsettled
      rcases hunsettled with hnone | hpending
      · cases hnone
      · rw [Option.some.inj hpending] at hreplay
        cases hreplay
    constructor
    · intro hrun
      obtain ⟨t', hrow', hreplay'⟩ := hreturned hrun
      obtain rfl := refundReplayStatus_inj hreplay hreplay'
      refine ⟨⟨t', ?_, hrow, hrow'⟩, fun hopen => absurd hopen hunopened⟩
      rintro rfl
      cases hreplay
    · rintro ⟨⟨t', -, hrow₁, hrow'⟩, -⟩ outcome'
      obtain rfl := Option.some.inj (hrow.symm.trans hrow₁)
      obtain ⟨request, hrequest⟩ := hs.sound.request _ _ hp
      have hv : view s.db r'.paymentId = some (viewOf s.db r'.paymentId payment request) :=
        view_eq_some.mpr ⟨payment, request, hr.payment ▸ hp, hrequest, rfl⟩
      exact run_of_view hv (by simpa [viewOf] using hstatus) hpos'
        (hr.currency.trans hcurrency) hrow' (hleft _ ▸ hreplay) outcome'
  · have hrow : r.row db = _ := row_of_view hv₁
    have hleft₁ : r.left db = _ := left_of_view hv₁
    have hcurrency : normCurrency r'.currency = normCurrency v.currency := by
      obtain ⟨-, w, hw, hcurrency⟩ := hw
      obtain rfl := Option.some.inj (hw.symm.trans hv)
      exact hr.currency.trans hcurrency
    have hrun : ∀ {t}, r'.row db = some t →
        PaymentLifecycle.refundReplayStatus t (r.left db) = some outcome.refundStatus →
        (v.answerRefund r.key r.currency stored outcome).status ≠ .unknownExternalOutcome →
        ∀ outcome', r'.run db outcome' = .ok (outcome.refundStatus, db) := by
      intro t hrow' hreplay hstatus
      refine run_of_view (hr.payment ▸ hv₁) ?_ hpos' ?_ hrow' (hleft _ ▸ hreplay)
      · cases outcome with
        | unknown => exact absurd rfl hstatus
        | failed => exact .inr (.inl rfl)
        | succeeded =>
          simp only [PaymentView.answerRefund, PaymentView.postRefund, PaymentView.putRefund]
          split_ifs
          · exact .inr (.inr rfl)
          · exact .inl rfl
      · rw [hcurrency]
        cases outcome <;> rfl
    cases outcome with
    | unknown =>
      have hpending : r.row db = some .pending := by
        rw [hrow]
        simp [PaymentView.answerRefund, PaymentView.putRefund, TransactionView.putRefund]
      constructor
      · intro hagain
        obtain ⟨t, -, hreplay⟩ := hreturned hagain
        exact absurd rfl (PaymentLifecycle.refundReplayStatus_ne_unknown hreplay)
      · rintro ⟨⟨t, ht, hrow₁, -⟩, -⟩
        exact absurd (Option.some.inj (hrow₁.symm.trans hpending)) ht
    | failed =>
      have hfailed : r.row db = some .failed := by
        rw [hrow]
        simp [PaymentView.answerRefund, PaymentView.putRefund, TransactionView.putRefund]
      constructor
      · intro hagain
        obtain ⟨t, hrow', hreplay⟩ := hreturned hagain
        obtain rfl := refundReplayStatus_inj (t := .failed) rfl hreplay
        exact ⟨⟨.failed, by simp, hfailed, hrow'⟩, fun _ hsucceeded => by cases hsucceeded⟩
      · rintro ⟨⟨t, -, hrow₁, hrow'⟩, -⟩
        obtain rfl := Option.some.inj (hrow₁.symm.trans hfailed)
        exact hrun hrow' rfl (by simp [PaymentView.answerRefund, PaymentView.putRefund])
    | succeeded =>
      have hposted : r.row db = some .posted := by
        rw [hrow]
        simp [PaymentView.answerRefund, PaymentView.putRefund, PaymentView.postRefund,
          TransactionView.putRefund]
      have hunits := hfirst.reopens.2.units_store hrefundable.amount
      have hremains : r.left db = r.left s.db - r.amount.units := by
        rw [hleft₁, left_of_view hv, ← hunits]
        simp [PaymentView.answerRefund, PaymentView.putRefund, PaymentView.postRefund,
          TransactionView.putRefund]
        ring
      constructor
      · intro hagain
        obtain ⟨t, hrow', hreplay⟩ := hreturned hagain
        cases t with
        | pending => cases hreplay
        | failed => cases hreplay
        | posted =>
          refine ⟨⟨.posted, by simp, hposted, hrow'⟩, fun _ _ => ?_⟩
          have hzero : r.left db = 0 := by
            by_contra hne
            simp only [PaymentLifecycle.refundReplayStatus, if_neg hne] at hreplay
            cases hreplay
          linarith
      · rintro ⟨⟨t, -, hrow₁, hrow'⟩, hwhole⟩
        obtain rfl := Option.some.inj (hrow₁.symm.trans hposted)
        have hzero : r.left db = 0 := by
          rw [hremains, hwhole hfirst.reopens.1 rfl, sub_self]
        refine hrun hrow' ?_ ?_
        · rw [hzero]
          rfl
        · simp only [PaymentView.answerRefund, PaymentView.postRefund, PaymentView.putRefund]
          split_ifs <;> simp

end Resend

/-- A refund that returned is sent again after any number of other refunds. It is replayed exactly
when it does not reopen, and sent again at once it is answered as before exactly when the rows under
the two spellings are settled alike and a first success left nothing. Under its own spelling it
never reopens. -/
theorem replayed_iff {env : Env} {s : State} (hs : s.Reachable env) {r r' : Refund}
    (hr : r'.Resends r) {outcome : ProviderOutcome} {status : PaymentStatus} {db : Db}
    (h : r.run s.db outcome = .ok (status, db)) (rs : List (Refund × ProviderOutcome)) :
    let after := Machine.run (step env) (step env s (r, outcome)) rs
    (r'.Replayed env after ∧
        (rs = [] → ∀ outcome', r'.run after.db outcome' = .ok (status, after.db)) ↔
      ¬ r'.Reopens after.db ∧ (rs = [] → r.Settles r' outcome s.db after.db)) ∧
    (r'.amount = r.amount → ¬ r'.Reopens after.db) := by
  intro after
  have hinv := hs.invariant
  obtain ⟨hwatched, hpos⟩ := watched_of_run hinv h
  obtain ⟨hcents, stored, hstored⟩ := payable_of_run hs h
  have hafter : r.Watched after ∧ r.Closed after := by
    have hstart : r.Watched (step env s (r, outcome)) ∧ r.Closed (step env s (r, outcome)) :=
      ⟨hwatched.step _, closed_of_run hinv h⟩
    exact Machine.run_invariant (I := fun s => r.Watched s ∧ r.Closed s)
      (fun s x hs => ⟨hs.1.step x, hs.2.step hs.1.1 x⟩) hstart rs
  have hstored' : Amount.store r'.amount = .ok stored := by
    rw [Amount.store_eq_ok, hr.amount]
    exact Amount.store_eq_ok.mp hstored
  have hcalls : r'.Calls after.db ↔ r'.Reopens after.db :=
    calls_iff (hr.watched hafter.1) (hr.amount ▸ hpos) (hcents.congr hr.amount.symm) hstored'
  refine ⟨?_, fun hspelled => ?_⟩
  · rw [replayed_iff_not_calls, hcalls]
    refine and_congr_right fun hreopens => forall_congr' fun hrs => ?_
    subst hrs
    have hdb : (step env s (r, outcome)).db = db := step_of_run h
    rw [show after.db = db from hdb] at hcalls hreopens ⊢
    exact run_again_iff hinv hr h fun hcall => hreopens (hcalls.mp hcall)
  · have hkey : r'.key = r.key := by rw [key, key, hspelled, hr.currency]
    have hclosed : r'.Closed after := by
      intro v hv hstatus
      rw [hkey]
      exact hafter.2 v (hr.payment ▸ hv) hstatus
    exact hclosed.not_reopens hafter.1.1

/-- A payment of 25 dollars that was authorized and captured. -/
def captured : State :=
  Machine.run (State.step .bare) (.start (.seeded .authorized (some .reserved)))
    [.capture 0 ⟨25, 0⟩ "USD" ⟨0, 1⟩ .succeeded]

lemma captured_reachable : captured.Reachable .bare :=
  ⟨_, _, Db.seeded_blank _ _, Db.seeded_budgetsAgree _ _, rfl⟩

/-- All of it refunded, and the refund sent again in another letter case. -/
theorem replayed_iff_whole :
    let r : Refund := ⟨0, ⟨25, 0⟩, "USD", ⟨0, 1⟩⟩
    let r' : Refund := ⟨0, ⟨25, 0⟩, "usd", ⟨0, 1⟩⟩
    let after := step .bare captured (r, .succeeded)
    r'.Replayed .bare after ∧ ∀ outcome, r'.run after.db outcome = .ok (.refunded, after.db) := by
  intro r r' after
  have hr : r'.Resends r := ⟨rfl, rfl, by decide +kernel⟩
  have hrun : r.run captured.db .succeeded = .ok (.refunded, after.db) :=
    Db.commit_of_ok captured.db (by decide +kernel)
  obtain ⟨hiff, hspelled⟩ := replayed_iff captured_reachable hr hrun []
  have hcaptured : PaymentLifecycle.postedSum captured.db 0 .capture = 250000 := by decide +kernel
  have hrefunded : PaymentLifecycle.postedSum captured.db 0 .refund = 0 := by decide +kernel
  have hsettles : r.Settles r' .succeeded captured.db after.db := by
    refine ⟨⟨.posted, by decide, by decide +kernel, by decide +kernel⟩, fun _ _ => ?_⟩
    rw [left, hcaptured, hrefunded]
    norm_num [r, Decimal.units]
  obtain ⟨hreplayed, hanswer⟩ := hiff.mpr ⟨hspelled rfl, fun _ => hsettles⟩
  exact ⟨hreplayed, hanswer rfl⟩

/-- Ten dollars refunded as `10` and sent again as `10.0` are refunded twice. Sent again as `10`,
the refund is answered with SUCCEEDED. -/
theorem spelled_refunds :
    let r : Refund := ⟨0, ⟨10, 0⟩, "USD", ⟨0, 1⟩⟩
    let r' : Refund := ⟨0, ⟨100, 1⟩, "USD", ⟨0, 1⟩⟩
    let after := step .bare captured (r, .succeeded)
    let again := step .bare after (r', .succeeded)
    captured.Reachable .bare ∧ r'.Resends r ∧
      (r.run captured.db .succeeded).map (·.1) = .ok .refunded ∧ r'.Calls after.db ∧
      PaymentLifecycle.postedSum after.db 0 .refund = 100000 ∧
      PaymentLifecycle.postedSum again.db 0 .refund = 200000 ∧
      after.db.ledgerJournals.rows.length = 2 ∧ again.db.ledgerJournals.rows.length = 3 ∧
      (r.run after.db .succeeded).map (·.1) = .ok .succeeded := by
  intro r r' after again
  have hr : r'.Resends r := by
    refine ⟨rfl, ?_, rfl⟩
    norm_num [r, r', Decimal.units]
  have hcall : (r'.progress after.db).map Progress.call? =
      .ok (some ⟨.refund, 0, 1000, "USD", .refund 0 ⟨100, 1⟩ "USD"⟩) := by
    decide +kernel
  refine ⟨captured_reachable, hr, ?_, calls_of_call hcall, ?_, ?_, ?_, ?_, ?_⟩ <;> decide +kernel

end Refund

end AgentPay
