import AgentPay.Simulation.Worker

/-!
# Capture, void and refund follow the payment machine

A lifecycle operation that commits is one step of the machine, whatever the provider answers.
-/

namespace AgentPay

open Support

/-- What the provider's answer makes of the payment a refund is asked for. -/
def PaymentView.answerRefund (k : Decimal × String) (rawCurrency : String) (amount : Amount)
    (v : PaymentView) : ProviderOutcome → PaymentView
  | .unknown   => v.putRefund k .pending amount .unknownExternalOutcome
  | .failed    => v.putRefund k .failed amount .refundFailed
  | .succeeded => v.postRefund k rawCurrency amount
      (if (v.transactions.captured : ℚ) - (v.transactions.refunded + k.1.units) = 0
        then .refunded else .succeeded)

lemma PaymentView.Refundable.step {v : PaymentView} {k : Decimal × String} {rawCurrency : String}
    {amount : Amount} (h : v.Refundable k rawCurrency amount) (outcome : ProviderOutcome) :
    PaymentStep (.refund outcome) v (v.answerRefund k rawCurrency amount outcome) := by
  cases outcome with
  | unknown => exact .refundUnknown h
  | failed => exact .refundFailed h
  | succeeded => exact .refundSucceeded h

/-- The status a refund returns with the provider's answer. -/
def ProviderOutcome.refundStatus : ProviderOutcome → PaymentStatus
  | .unknown   => .unknownExternalOutcome
  | .failed    => .refundFailed
  | .succeeded => .refunded

namespace PaymentLifecycle

/-! ### Captures and voids -/

lemma validateOperationAmount_eq_ok {amount : Decimal} {currency : String} {payment : Payment}
    {normalized : String}
    (h : validateOperationAmount amount currency payment = .ok normalized) :
    0 < amount.units ∧ amount.units = payment.amount.toDecimal.units ∧
      normalized = normCurrency currency ∧
      normCurrency currency = normCurrency payment.currency := by
  simp only [validateOperationAmount] at h
  split_ifs at h with hpos hne hcur
  exact ⟨not_le.mp hpos, not_not.mp hne, (Except.ok.inj h).symm, not_not.mp hcur⟩

/-- Where `capture` gets without the provider: nothing is written, or the operation row is. -/
lemma capture_eq_ok {db : Db} {p : PaymentId} {amount : Decimal} {currency : String}
    {accounts : LedgerAccounts} {progress : Progress}
    (h : capture db p amount currency accounts = .ok progress) :
    progress = .returned .succeeded db ∨
    ∃ payment id db₁ minor, db.payments.get? p = some payment ∧ payment.status = .authorized ∧
      validateOperationAmount amount currency payment = .ok (normCurrency currency) ∧
      PaymentRepository.createProviderOperation db p .capture (.capture p) = .ok (id, db₁) ∧
      amountMinor amount = .ok minor ∧
      progress = .calling ⟨.capture, p, minor, normCurrency currency, .capture p⟩
        (captureAnswered db₁ p amount (normCurrency currency) accounts) := by
  simp only [capture] at h
  split at h
  · cases h
  rename_i payment hp
  split_ifs at h with hsucc hauth
  · obtain ⟨-, -, h⟩ := Except.bind_eq_ok.mp h
    exact .inl (Except.ok.inj h).symm
  · obtain ⟨currency', hvalid, h⟩ := Except.bind_eq_ok.mp h
    obtain ⟨⟨id, db₁⟩, hop, h⟩ := Except.bind_eq_ok.mp h
    obtain ⟨minor, hminor, h⟩ := Except.bind_eq_ok.mp h
    obtain ⟨-, -, rfl, -⟩ := validateOperationAmount_eq_ok hvalid
    exact .inr ⟨payment, id, db₁, minor, hp, not_not.mp hauth, hvalid, hop, hminor,
      (Except.ok.inj h).symm⟩

/-- A transaction that is not POSTED under a key of its own leaves what the transactions say
about captures and refunds alone. -/
lemma files_unseen {v : TransactionView} {t : Transaction}
    (hcapture : ∀ path : CapturePath, t.idempotencyKey ≠ path.key t.paymentId)
    (hrefund : ∀ k : Decimal × String, t.idempotencyKey ≠ .refund t.paymentId k.1 k.2)
    (hposted : t.type = .void ∨ t.status ≠ .posted) : v.add t = v := by
  have htype : ¬ (t.type = .capture ∧ t.status = .posted) ∧
      ¬ (t.type = .refund ∧ t.status = .posted) := by
    rcases hposted with h | h <;> simp [h]
  simp [TransactionView.add, hcapture, hrefund, htype]

/-- `_create_transaction` under a key that no view reads. -/
lemma createTransaction_unseen {db db' : Db} (h : db.Sound) {p : PaymentId} {v : PaymentView}
    (hv : view db p = some v) {amount : Decimal} {currency : String} {k : TransactionKey}
    (hkey : k = .captureFailed p ∨ k = .voidFailed p ∨ k = .void p)
    {status : TransactionStatus} (hallows : k.Allows status) {id : TransactionId}
    (hrun : createTransaction db p k.type amount currency k status = .ok (id, db')) :
    Effect p (fun v => v) db db' := by
  rcases createTransaction_eq_ok hrun with ⟨-, -, -, rfl⟩ | ⟨stored, hstored, -, hfiles⟩
  · exact Effect.refl p h
  · have hfiled : (newTransaction p k.type stored currency k status).Filed := by
      refine ⟨?_, rfl, hallows, ?_⟩
      · rcases hkey with rfl | rfl | rfl <;> rfl
      · rintro q a c rfl
        rcases hkey with hkey | hkey | hkey <;> cases hkey
    refine (Effect.files h hfiled (view_lt hv) hfiles).congr fun v' _ => ?_
    have hunseen := files_unseen (v := v'.transactions)
      (t := newTransaction p k.type stored currency k status)
      (fun path => by
        rcases hkey with rfl | rfl | rfl <;> cases path <;> simp [newTransaction, CapturePath.key])
      (fun k => by rcases hkey with rfl | rfl | rfl <;> simp [newTransaction])
      (by
        rcases hkey with rfl | rfl | rfl
        · obtain rfl : status = .failed := hallows
          exact .inr (by simp [newTransaction])
        · exact .inl rfl
        · exact .inl rfl)
    rw [hunseen]

/-- The operation row of a capture, a void or a refund shows in no view. -/
lemma createProviderOperation_unseen {db db' : Db} (h : db.Sound) {p : PaymentId}
    {v : PaymentView} (hv : view db p = some v) {k : OperationKey} (hkey : k.paymentId = p)
    (hne : k ≠ .charge p) {id : OperationId}
    (hrun : PaymentRepository.createProviderOperation db p k.operationType k =
      .ok (id, db')) : Effect p (fun v => v) db db' := by
  refine (Effect.createProviderOperation h (view_lt hv) hkey hrun).congr fun v _ => ?_
  simp [hne]

/-- `capture` with an answer is a step of the machine. -/
lemma capture_moves {db db' : Db} (h : db.Sound) {p : PaymentId} {amount : Decimal}
    {currency : String} {accounts : LedgerAccounts} {progress : Progress}
    (hrun : capture db p amount currency accounts = .ok progress) {outcome : ProviderOutcome}
    {status : PaymentStatus} (hanswer : progress.answer outcome = .ok (status, db')) :
    Moves (.capture outcome) p db db' := by
  rcases capture_eq_ok hrun with
    rfl | ⟨payment, id, db₁, minor, hp, hauth, hvalid, hop, -, rfl⟩
  · obtain ⟨-, rfl⟩ := by simpa [Progress.answer] using hanswer
    exact Moves.refl _ p h
  obtain ⟨request, hr⟩ := h.request p payment hp
  have hv : view db p = some (viewOf db p payment request) :=
    view_eq_some.mpr ⟨payment, request, hp, hr, rfl⟩
  have hstore : Amount.store amount = .ok payment.amount :=
    Amount.store_of_units (by rw [(validateOperationAmount_eq_ok hvalid).2.1,
      Amount.units_toDecimal])
  have h₁ := createProviderOperation_unseen h hv (k := .capture p) rfl (by simp) hop
  simp only [Progress.answer] at hanswer
  cases outcome with
  | unknown =>
    obtain ⟨-, rfl⟩ := by simpa [captureAnswered] using hanswer
    have h₂ := h₁.trans (Effect.updateStatus h₁.sound p .unknownExternalOutcome none)
    exact Moves.of_effect hv h₂ rfl (.captureUnknown hauth)
  | failed =>
    obtain ⟨⟨transactionId, db₃⟩, hcreate, hanswer⟩ := Except.bind_eq_ok.mp hanswer
    obtain ⟨-, rfl⟩ : _ = status ∧ db₃ = db' := by simpa [pure, Except.pure] using hanswer
    have h₂ := h₁.trans (Effect.updateStatus h₁.sound p .failed none)
    have h₃ := h₂.trans (createTransaction_unseen (k := .captureFailed p) h₂.sound
      (h₂.view_some hv) (.inl rfl) rfl hcreate)
    exact Moves.of_effect hv h₃ rfl (.captureFailed hauth)
  | succeeded =>
    obtain ⟨⟨transactionId, db₂⟩, hcreate, hanswer⟩ := Except.bind_eq_ok.mp hanswer
    obtain ⟨⟨journalId, db₃⟩, hjournal, hanswer⟩ := Except.bind_eq_ok.mp hanswer
    obtain ⟨-, rfl⟩ : _ = status ∧ _ = db' := by simpa [pure, Except.pure] using hanswer
    have hfiles : db₁.FilesCapture db₂ p .direct amount := by
      rcases createTransaction_eq_ok hcreate with ⟨t, ht, hkey, rfl⟩ | ⟨stored, hs, -, hfiles⟩
      · refine .inl ⟨Option.isSome_iff_exists.mpr ⟨t, ?_⟩, rfl⟩
        exact Table.row?_eq_some.mpr ⟨Table.mem_of_get? ht, congrArg some hkey⟩
      · exact .inr ⟨_, hs, rfl, rfl, rfl, rfl, hfiles⟩
    have h₂ := h₁.trans
      (Effect.postCapture h₁.sound (h₁.view_some hv) hstore hfiles hjournal)
    have h₃ := h₂.trans (Effect.updateStatus h₂.sound p .succeeded none)
    exact Moves.of_effect (g := fun v => (v.postCapture .direct).withStatus .succeeded) hv h₃ rfl
      (.captureSucceeded hauth)

/-- Where `void` gets without the provider. -/
lemma void_eq_ok {db : Db} {p : PaymentId} {amount : Decimal} {currency : String}
    {progress : Progress} (h : void db p amount currency = .ok progress) :
    progress = .returned .voided db ∨
    ∃ payment id db₁ minor, db.payments.get? p = some payment ∧ payment.status = .authorized ∧
      validateOperationAmount amount currency payment = .ok (normCurrency currency) ∧
      PaymentRepository.createProviderOperation
        (PaymentRepository.updateStatus db p .voidRequested none) p .void (.void p) =
          .ok (id, db₁) ∧
      amountMinor amount = .ok minor ∧
      progress = .calling ⟨.void, p, minor, normCurrency currency, .void p⟩
        (voidAnswered db₁ p amount (normCurrency currency)) := by
  simp only [void] at h
  split at h
  · cases h
  rename_i payment hp
  split_ifs at h with hvoided hauth
  · obtain ⟨-, -, h⟩ := Except.bind_eq_ok.mp h
    exact .inl (Except.ok.inj h).symm
  · obtain ⟨currency', hvalid, h⟩ := Except.bind_eq_ok.mp h
    obtain ⟨⟨id, db₁⟩, hop, h⟩ := Except.bind_eq_ok.mp h
    obtain ⟨minor, hminor, h⟩ := Except.bind_eq_ok.mp h
    obtain ⟨-, -, rfl, -⟩ := validateOperationAmount_eq_ok hvalid
    exact .inr ⟨payment, id, db₁, minor, hp, not_not.mp hauth, hvalid, hop, hminor,
      (Except.ok.inj h).symm⟩

/-- `void` with an answer is a step of the machine. -/
lemma void_moves {db db' : Db} (h : db.Sound) {p : PaymentId} {amount : Decimal}
    {currency : String} {progress : Progress} (hrun : void db p amount currency = .ok progress)
    {outcome : ProviderOutcome} {status : PaymentStatus}
    (hanswer : progress.answer outcome = .ok (status, db')) : Moves (.void outcome) p db db' := by
  rcases void_eq_ok hrun with rfl | ⟨payment, id, db₁, minor, hp, hauth, -, hop, -, rfl⟩
  · obtain ⟨-, rfl⟩ := by simpa [Progress.answer] using hanswer
    exact Moves.refl _ p h
  obtain ⟨request, hr⟩ := h.request p payment hp
  have hv : view db p = some (viewOf db p payment request) :=
    view_eq_some.mpr ⟨payment, request, hp, hr, rfl⟩
  have h₀ := Effect.updateStatus h p .voidRequested none
  have h₁ := h₀.trans (createProviderOperation_unseen h₀.sound (h₀.view_some hv)
    (k := .void p) rfl (by simp) hop)
  simp only [Progress.answer] at hanswer
  cases outcome with
  | unknown =>
    obtain ⟨-, rfl⟩ := by simpa [voidAnswered] using hanswer
    have h₂ := h₁.trans (Effect.updateStatus h₁.sound p .unknownExternalOutcome none)
    exact Moves.of_effect hv h₂ rfl (.voidUnknown hauth)
  | failed =>
    obtain ⟨⟨transactionId, db₃⟩, hcreate, hanswer⟩ := Except.bind_eq_ok.mp hanswer
    obtain ⟨-, rfl⟩ : _ = status ∧ db₃ = db' := by simpa [pure, Except.pure] using hanswer
    have h₂ := h₁.trans (Effect.updateStatus h₁.sound p .voidFailed none)
    have h₃ := h₂.trans (createTransaction_unseen (k := .voidFailed p) h₂.sound
      (h₂.view_some hv) (.inr (.inl rfl)) rfl hcreate)
    exact Moves.of_effect hv h₃ rfl (.voidFailed hauth)
  | succeeded =>
    obtain ⟨⟨transactionId, db₂⟩, hcreate, hanswer⟩ := Except.bind_eq_ok.mp hanswer
    obtain ⟨-, rfl⟩ : _ = status ∧ _ = db' := by simpa [pure, Except.pure] using hanswer
    have h₂ := h₁.trans (createTransaction_unseen (k := .void p) h₁.sound
      (h₁.view_some hv) (.inr (.inr rfl)) rfl hcreate)
    have h₃ := h₂.trans (Effect.updateStatus h₂.sound p .voided none)
    exact Moves.of_effect hv h₃ rfl (.voidSucceeded hauth)

/-! ### Refunds -/

lemma validateRefundAmount_eq_ok {amount : Decimal} {currency : String} {payment : Payment}
    {normalized : String} (h : validateRefundAmount amount currency payment = .ok normalized) :
    0 < amount.units ∧ normalized = normCurrency currency ∧
      normCurrency currency = normCurrency payment.currency := by
  simp only [validateRefundAmount] at h
  split_ifs at h with hpos hcur
  exact ⟨not_le.mp hpos, (Except.ok.inj h).symm, not_not.mp hcur⟩

lemma refundReplayStatus_ne_unknown {status : TransactionStatus} {refundable : ℚ}
    {answer : PaymentStatus} (h : refundReplayStatus status refundable = some answer) :
    answer ≠ .unknownExternalOutcome := by
  cases status with
  | pending => cases h
  | posted =>
    simp only [refundReplayStatus] at h
    split_ifs at h <;> · cases h; decide
  | failed =>
    cases h
    decide

/-- Where `refund` gets without the provider. -/
lemma refund_eq_ok {db : Db} {p : PaymentId} {amount : Decimal} {rawCurrency : String}
    {accounts : LedgerAccounts} {progress : Progress}
    (h : refund db p amount rawCurrency accounts = .ok progress) :
    (∃ status, progress = .returned status db ∧ status ≠ .unknownExternalOutcome) ∨
    ∃ payment id db₁ refundId db₂ minor, db.payments.get? p = some payment ∧
      payment.status ∈ [.succeeded, .refundFailed, .refunded] ∧
      0 < amount.units ∧ normCurrency rawCurrency = normCurrency payment.currency ∧
      (∀ t, db.transactions.row? (.refund p amount (normCurrency rawCurrency)) = some t →
        t.status = .pending) ∧
      amount.units ≤ (postedSum db p .capture : ℚ) - postedSum db p .refund ∧
      PaymentRepository.createProviderOperation
        (PaymentRepository.updateStatus db p .refundProcessing none) p .refund
          (.refund p amount rawCurrency) = .ok (id, db₁) ∧
      createTransaction db₁ p .refund amount (normCurrency rawCurrency)
        (.refund p amount (normCurrency rawCurrency)) .pending = .ok (refundId, db₂) ∧
      amountMinor amount = .ok minor ∧
      progress = .calling
        ⟨.refund, p, minor, normCurrency rawCurrency, .refund p amount rawCurrency⟩
        (refundAnswered db₂ p refundId amount (normCurrency rawCurrency) rawCurrency accounts
          (postedSum db p .capture) (postedSum db p .refund)) := by
  simp only [refund] at h
  split at h
  · cases h
  rename_i payment hp
  by_cases hstatus : payment.status ∉ [.succeeded, .refundFailed, .refunded]
  · rw [if_pos hstatus] at h
    cases h
  rw [if_neg hstatus] at h
  obtain ⟨currency, hvalid, h⟩ := Except.bind_eq_ok.mp h
  obtain ⟨hpos, rfl, hcur⟩ := validateRefundAmount_eq_ok hvalid
  split at h
  · rename_i status hreplay
    refine .inl ⟨status, (Except.ok.inj h).symm, ?_⟩
    obtain ⟨⟨i, t⟩, -, hstatus⟩ := Option.bind_eq_some_iff.mp hreplay
    exact refundReplayStatus_ne_unknown hstatus
  rename_i hreplay
  have hpending : ∀ t, db.transactions.row? (.refund p amount (normCurrency rawCurrency)) =
      some t → t.status = .pending := by
    intro t ht
    simp only [Table.row?, Option.map_eq_some_iff, Prod.exists] at ht
    obtain ⟨i, t', hfind, rfl⟩ := ht
    simp only [hfind, Option.bind_some] at hreplay
    cases hs : t'.status with
    | pending => rfl
    | posted =>
      simp only [hs, refundReplayStatus] at hreplay
      split_ifs at hreplay
    | failed => simp [hs, refundReplayStatus] at hreplay
  split_ifs at h with hwithin
  obtain ⟨⟨id, db₁⟩, hop, h⟩ := Except.bind_eq_ok.mp h
  obtain ⟨⟨refundId, db₂⟩, hcreate, h⟩ := Except.bind_eq_ok.mp h
  obtain ⟨minor, hminor, h⟩ := Except.bind_eq_ok.mp h
  exact .inr ⟨payment, id, db₁, refundId, db₂, minor, hp, not_not.mp hstatus, hpos, hcur,
    hpending, not_lt.mp hwithin, hop, hcreate, hminor, (Except.ok.inj h).symm⟩

/-- The PENDING row of a refund: inserted, or left over from an attempt without an answer. -/
lemma pendRefund_effect {db db' : Db} (h : db.Sound) {p : PaymentId} {v : PaymentView}
    (hv : view db p = some v) {k : Decimal × String}
    (hpending : ∀ t, db.transactions.row? (.refund p k.1 k.2) = some t → t.status = .pending)
    {id : TransactionId}
    (hrun : createTransaction db p .refund k.1 k.2 (.refund p k.1 k.2) .pending = .ok (id, db')) :
    ∃ t, db'.transactions.get? id = some t ∧ t.idempotencyKey = .refund p k.1 k.2 ∧
      t.paymentId = p ∧ t.status = .pending ∧ Amount.store k.1 = .ok t.amount ∧
      Effect p (fun v => { v with
        transactions := v.transactions.putRefund k .pending t.amount }) db db' := by
  rcases createTransaction_eq_ok hrun with ⟨t, ht, hkey, rfl⟩ | ⟨stored, hstored, rfl, hfiles⟩
  · have hfiled := (h.transaction t (Table.mem_of_get? ht)).1
    have hrow : db'.transactions.row? (.refund p k.1 k.2) = some t :=
      Table.row?_eq_some.mpr ⟨Table.mem_of_get? ht, congrArg some hkey⟩
    have hstatus := hpending t hrow
    refine ⟨t, ht, hkey, ?_, hstatus, hfiled.amount _ _ _ hkey, ?_⟩
    · rw [hfiled.payment, hkey]
      rfl
    · refine (Effect.refl p h).congr fun v' hv' => ?_
      have hrefund : v'.transactions.refund k = some .pending := by
        rw [(view_tables hv').2.2.1]
        simp [transactionView, hrow, hstatus]
      simp [TransactionView.putRefund, ← hrefund]
  · have hfiled :
        (newTransaction p .refund stored k.2 (.refund p k.1 k.2) .pending).Filed := by
      refine ⟨rfl, rfl, trivial, ?_⟩
      intro q a c hk
      obtain ⟨-, rfl, -⟩ := by simpa using hk
      exact hstored
    refine ⟨newTransaction p .refund stored k.2 (.refund p k.1 k.2) .pending, ?_, rfl, rfl, rfl,
      hstored, ?_⟩
    · obtain ⟨-, transactions, hrows, rfl⟩ := hfiles
      exact (Table.get?_of_rows_append hrows _).trans (if_pos rfl)
    · refine (Effect.files h hfiled (view_lt hv) hfiles).congr fun v' _ => ?_
      rw [TransactionView.add_refund (k := k) rfl rfl]
      rfl

lemma putRefund_putRefund (v : TransactionView) (k : Decimal × String)
    (status : TransactionStatus) (amount : Amount) :
    (v.putRefund k .pending amount).putRefund k status amount = v.putRefund k status amount := by
  simp [TransactionView.putRefund]

/-- What a refund that the provider answers does to the payment it is about. -/
lemma refund_effect {db db' : Db} (h : db.Sound) {p : PaymentId} {amount : Decimal}
    {rawCurrency : String} {accounts : LedgerAccounts} {call : ProviderCall}
    {answered : ProviderOutcome → Except Error (PaymentStatus × Db)}
    (hrun : refund db p amount rawCurrency accounts = .ok (.calling call answered))
    {outcome : ProviderOutcome} {status : PaymentStatus}
    (hanswer : answered outcome = .ok (status, db')) :
    ∃ v stored f, view db p = some v ∧
      v.Refundable (amount, normCurrency rawCurrency) rawCurrency stored ∧
      status = outcome.refundStatus ∧ Effect p f db db' ∧
      f v = v.answerRefund (amount, normCurrency rawCurrency) rawCurrency stored outcome := by
  rcases refund_eq_ok hrun with ⟨_, hreturned, -⟩ | ⟨payment, id, db₁, refundId, db₂, minor, hp,
    hstatus, hpos, -, hpending, hwithin, hop, hcreate, -, hcalling⟩
  · cases hreturned
  obtain ⟨-, rfl⟩ := Progress.calling.inj hcalling
  obtain ⟨request, hr⟩ := h.request p payment hp
  have hv : view db p = some (viewOf db p payment request) :=
    view_eq_some.mpr ⟨payment, request, hp, hr, rfl⟩
  have h₀ := Effect.updateStatus h p .refundProcessing none
  have h₁ := h₀.trans (createProviderOperation_unseen h₀.sound (h₀.view_some hv)
    (k := .refund p amount rawCurrency) rfl (by simp) hop)
  have htx : db₁.transactions = db.transactions := by
    rcases PaymentRepository.createProviderOperation_eq_ok hop with
      ⟨operations, -, -, rfl⟩ | ⟨-, rfl⟩ <;> rfl
  obtain ⟨t, ht, hkey, hpay, hrow, hstore, heff⟩ := pendRefund_effect
    (k := (amount, normCurrency rawCurrency)) h₁.sound (h₁.view_some hv) (htx ▸ hpending) hcreate
  have h₂ := h₁.trans heff
  have hrefundable : (viewOf db p payment request).Refundable
      (amount, normCurrency rawCurrency) rawCurrency t.amount := by
    refine ⟨by simpa [viewOf] using hstatus, rfl, hpos, hwithin, ?_, hstore⟩
    cases hrow' : db.transactions.row? (.refund p amount (normCurrency rawCurrency)) with
    | none => exact .inl (by simp [viewOf, transactionView, hrow'])
    | some t' => exact .inr (by simp [viewOf, transactionView, hrow', hpending t' hrow'])
  have hsettle := fun status => Effect.settleRefund (k := (amount, normCurrency rawCurrency))
    h₂.sound ht (by rw [hpay]; exact hkey) hrow status
  rw [hpay] at hsettle
  cases outcome with
  | unknown =>
    obtain ⟨rfl, rfl⟩ := by simpa [refundAnswered] using hanswer
    exact ⟨_, t.amount, _, hv, hrefundable, rfl,
      h₂.trans (Effect.updateStatus h₂.sound p .unknownExternalOutcome none), rfl⟩
  | failed =>
    obtain ⟨rfl, rfl⟩ := by simpa [refundAnswered] using hanswer
    have h₃ := h₂.trans (hsettle .failed)
    refine ⟨_, t.amount, _, hv, hrefundable, rfl,
      h₃.trans (Effect.updateStatus h₃.sound p .refundFailed none), ?_⟩
    simp [PaymentView.answerRefund, PaymentView.putRefund, putRefund_putRefund]
  | succeeded =>
    obtain ⟨⟨journalId, db₃⟩, hjournal, hanswer⟩ := Except.bind_eq_ok.mp hanswer
    obtain ⟨rfl, rfl⟩ : _ = status ∧ _ = db' := by simpa [pure, Except.pure] using hanswer
    have h₃ := h₂.trans (hsettle .posted)
    have h₄ := h₃.trans (Effect.refundJournal (k := (amount, rawCurrency)) h₃.sound
      (view_lt (h₃.view_some hv)) hstore hjournal)
    refine ⟨_, t.amount, _, hv, hrefundable, rfl,
      h₄.trans (Effect.updateStatus h₄.sound p _ none), ?_⟩
    simp only [PaymentView.answerRefund, PaymentView.postRefund, PaymentView.putRefund,
      putRefund_putRefund]
    rfl

/-- `refund` with an answer is a step of the machine. -/
lemma refund_moves {db db' : Db} (h : db.Sound) {p : PaymentId} {amount : Decimal}
    {rawCurrency : String} {accounts : LedgerAccounts} {progress : Progress}
    (hrun : refund db p amount rawCurrency accounts = .ok progress) {outcome : ProviderOutcome}
    {status : PaymentStatus} (hanswer : progress.answer outcome = .ok (status, db')) :
    Moves (.refund outcome) p db db' := by
  cases progress with
  | returned status' db'' =>
    rcases refund_eq_ok hrun with ⟨_, hreturned, -⟩ | ⟨_, _, _, _, _, _, _, _, _, _, _, _, _, _, _,
      hcalling⟩
    · obtain ⟨-, rfl⟩ := Progress.returned.inj hreturned
      obtain ⟨-, rfl⟩ := by simpa [Progress.answer] using hanswer
      exact Moves.refl _ p h
    · cases hcalling
  | calling call answered =>
    obtain ⟨v, stored, f, hv, hrefundable, -, heffect, hf⟩ := refund_effect h hrun hanswer
    exact Moves.of_effect (g := fun v => v.answerRefund _ rawCurrency stored outcome) hv heffect hf
      (hrefundable.step outcome)

end PaymentLifecycle

end AgentPay
