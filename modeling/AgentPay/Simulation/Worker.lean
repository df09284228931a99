import AgentPay.PaymentStep

/-!
# The worker follows the payment machine

Each phase of `process_one` that commits is a step of the machine of the payment it took up.
-/

namespace AgentPay

open Support

/-! ### Taking a payment up -/

/-- The local variables of a `process_one` call describe the payment `v` it took up. -/
structure Worker.Claim.Describes (c : Worker.Claim) (v : PaymentView) : Prop where
  request : v.requestId = c.requestId
  amount : v.amount = c.amount
  currency : v.currency = c.currency
  charge : v.charge.isSome
  reservation : ∃ s, v.reservation = some (c.reservationId, s)

def Worker.Claim.Valid (c : Worker.Claim) (db : Db) : Prop :=
  ∃ v, view db c.paymentId = some v ∧ c.Describes v

/-- The first phase takes up a payment that holds a reservation, whatever its status. -/
lemma Worker.mark_moves {db db' : Db} (h : db.Sound) {p : PaymentId} {accounts : LedgerAccounts}
    {c : Claim} (hrun : mark db p accounts = .ok (c, db')) :
    Moves .mark p db db' ∧ c.paymentId = p ∧ c.Valid db' := by
  simp only [mark] at hrun
  split at hrun
  · cases hrun
  rename_i payment hp
  split at hrun
  · cases hrun
  rename_i request hr
  split at hrun
  · cases hrun
  rename_i reservationId hlink
  obtain ⟨⟨operationId, db₁⟩, hop, hrun⟩ := Except.bind_eq_ok.mp hrun
  obtain ⟨rfl, rfl⟩ : _ = c ∧ _ = db' := by simpa [pure, Except.pure] using hrun
  obtain ⟨row, hrow, -⟩ := h.reservation _ _ _ hr hlink
  have hv : view db p = some (viewOf db p payment request) :=
    view_eq_some.mpr ⟨payment, request, hp, hr, rfl⟩
  have hres : (viewOf db p payment request).reservation = some (reservationId, row.status) := by
    simp [viewOf, reservationView, hlink, hrow]
  have h₁ := Effect.createProviderOperation h (view_lt hv) (k := .charge p) rfl hop
  have h₂ := h₁.trans (Effect.updateStatus h₁.sound p .processing none)
  refine ⟨Moves.of_effect (g := PaymentView.mark) hv h₂ ?_ (.mark (by simp [hres])), rfl, ?_⟩
  · simp [PaymentView.mark]
  · exact ⟨_, h₂.view_some hv, rfl, rfl, rfl, by simp, row.status, hres⟩

/-- What `finalize` asks of the payment row before it writes. -/
structure PaymentOrchestrator.Binds (v : PaymentView) (requestId : RequestId) (amount : Decimal)
    (currency : String) : Prop where
  request : v.requestId = requestId
  amount : v.amount.toDecimal.units = amount.units
  currency : normCurrency v.currency = upper currency

/-- `finalize` answers without writing, or runs the branch of its outcome on a payment that is
still undecided. -/
lemma PaymentOrchestrator.finalize_eq_ok {db db' : Db} (h : db.Sound) {p : PaymentId}
    {requestId : RequestId} {reservationId : ReservationId} {amount : Decimal} {currency : String}
    {accounts : LedgerAccounts} {outcome : ProviderOutcome} {reference : Option String}
    {status : PaymentStatus}
    (hrun : finalize db p requestId reservationId amount currency accounts outcome reference =
      .ok (status, db')) :
    ∃ v, view db p = some v ∧ Binds v requestId amount currency ∧
      (db' = db ∨ v.status.Executable ∧
        match outcome with
        | .unknown => db' = finalizeUnknown db p reservationId reference
        | .failed => finalizeFailed db p reservationId reference = .ok db'
        | .succeeded =>
          finalizeSucceeded db p reservationId amount currency accounts reference = .ok db') := by
  simp only [finalize] at hrun
  split at hrun
  · cases hrun
  rename_i payment hp
  obtain ⟨request, hr⟩ := h.request p payment hp
  have hv : view db p = some (viewOf db p payment request) :=
    view_eq_some.mpr ⟨payment, request, hp, hr, rfl⟩
  split_ifs at hrun with hreq hcur hsucc hfail hunk hexec
  all_goals
    refine ⟨_, hv, ⟨not_not.mp hreq, not_not.mp fun hne => hcur (.inl hne),
      not_not.mp fun hne => hcur (.inr hne)⟩, ?_⟩
  · exact .inl (Prod.ext_iff.mp (Except.ok.inj hrun)).2.symm
  · exact .inl (Prod.ext_iff.mp (Except.ok.inj hrun)).2.symm
  · exact .inl (Prod.ext_iff.mp (Except.ok.inj hrun)).2.symm
  · refine .inr ⟨hexec, ?_⟩
    cases outcome with
    | unknown =>
      obtain ⟨-, rfl⟩ := by simpa using hrun
      rfl
    | failed =>
      obtain ⟨db₁, hfailed, hrun⟩ := Except.bind_eq_ok.mp hrun
      obtain ⟨-, rfl⟩ : _ = status ∧ db₁ = db' := by simpa [pure, Except.pure] using hrun
      exact hfailed
    | succeeded =>
      obtain ⟨db₁, hsucceeded, hrun⟩ := Except.bind_eq_ok.mp hrun
      obtain ⟨-, rfl⟩ : _ = status ∧ db₁ = db' := by simpa [pure, Except.pure] using hrun
      exact hsucceeded

section Finalize

variable {db db' : Db} (h : db.Sound) {p : PaymentId} {v : PaymentView}
  (hv : view db p = some v) {reservationId : ReservationId} {s : ReservationStatus}
  (hres : v.reservation = some (reservationId, s)) {reference : Option String}

include h

lemma PaymentOrchestrator.finalizeUnknown_effect (p : PaymentId) :
    Effect p (fun v => v.withStatus .unknownExternalOutcome) db
      (finalizeUnknown db p reservationId reference) := by
  have h₁ := Effect.updateCharges h p (fun o => { o with status := .unknown }) (fun _ => rfl) id
    (fun _ => rfl) (fun _ => rfl) fun _ => rfl
  have h₂ := h₁.trans (Effect.updateStatus h₁.sound p .unknownExternalOutcome reference)
  refine (h₂.enqueue _).congr fun v _ => ?_
  simp [PaymentView.withStatus]

include hv hres

lemma PaymentOrchestrator.finalizeFailed_effect
    (hrun : finalizeFailed db p reservationId reference = .ok db') :
    Effect p (fun _ => v.fail) db db' := by
  simp only [finalizeFailed] at hrun
  have h₁ := Effect.updateCharges h p (decided .failed reference) (fun _ => rfl) (fun _ => true)
    (fun _ => rfl) (fun _ => rfl) fun _ => rfl
  obtain ⟨db₂, hrelease, hrun⟩ := Except.bind_eq_ok.mp hrun
  obtain rfl := Except.ok.inj hrun
  have h₂ := h₁.trans (Effect.settle h₁.sound (h₁.view_some hv) hres hrelease)
  have h₃ := h₂.trans (Effect.updateStatus h₂.sound p .failed reference)
  refine (h₃.enqueue _).congr fun v' hv' => ?_
  obtain rfl : v = v' := by simpa [hv] using hv'
  simp [PaymentView.fail, hres]

end Finalize

/-! ### Captures -/

/-- The capture row under the key of `path` is there, or was inserted. -/
def Db.FilesCapture (db db' : Db) (p : PaymentId) (path : CapturePath) (amount : Decimal) : Prop :=
  ((db.transactions.row? (path.key p)).isSome ∧ db' = db) ∨
    ∃ t : Transaction, Amount.store amount = .ok t.amount ∧ t.paymentId = p ∧
      t.type = .capture ∧ t.status = .posted ∧ t.idempotencyKey = path.key p ∧ db.Files db' t

lemma Effect.filesCapture {db db' : Db} (h : db.Sound) {p : PaymentId} {v : PaymentView}
    (hv : view db p = some v) {path : CapturePath} {amount : Decimal}
    (hstore : Amount.store amount = .ok v.amount) (hrun : db.FilesCapture db' p path amount) :
    Effect p (fun v => { v with transactions := v.transactions.postCapture path v.amount })
      db db' := by
  have htx : (view db p).map (·.transactions.capture path) =
      some (db.transactions.row? (path.key p)).isSome := by
    rw [hv, Option.map_some, (view_tables hv).2.2.1]
    rfl
  rw [hv, Option.map_some, Option.some.injEq] at htx
  rcases hrun with ⟨hrow, rfl⟩ | ⟨t, hstore', rfl, htype, hstatus, hkey, hfiles⟩
  · refine (Effect.refl p h).congr fun v' hv' => ?_
    obtain rfl : v = v' := by simpa [hv] using hv'
    rw [hrow] at htx
    simp [TransactionView.postCapture, htx]
  · have hfiled : t.Filed := by
      refine ⟨?_, ?_, ?_, ?_⟩
      · rw [hkey, CapturePath.key_paymentId]
      · rw [htype, hkey]
        cases path <;> rfl
      · rw [hkey, hstatus]
        cases path <;> rfl
      · intro q a c hrefund
        rw [hkey] at hrefund
        cases path <;> cases hrefund
    refine (Effect.files h hfiled (view_lt hv) hfiles).congr fun v' hv' => ?_
    obtain rfl : v = v' := by simpa [hv] using hv'
    have hamount : v.amount = t.amount := by
      rw [hstore] at hstore'
      exact Except.ok.inj hstore'
    rw [← hkey, hfiles.1] at htx
    rw [TransactionView.add_capture hkey htype hstatus htx, hamount]

/-- A capture row and the capture journal. -/
lemma Effect.postCapture {db db₁ db₂ : Db} (h : db.Sound) {p : PaymentId} {v : PaymentView}
    (hv : view db p = some v) {path : CapturePath} {amount : Decimal}
    (hstore : Amount.store amount = .ok v.amount) (hfiles : db.FilesCapture db₁ p path amount)
    {debitAccount creditAccount : LedgerAccountId} {currency : String}
    {reference : JournalReference} {id : ℕ}
    (hjournal : postJournal db₁ currency reference (.capture p)
      (transfer debitAccount creditAccount amount currency) = .ok (id, db₂)) :
    Effect p (·.postCapture path) db db₂ := by
  have h₁ := Effect.filesCapture h hv hstore hfiles
  have h₂ := h₁.trans
    (Effect.captureJournal h₁.sound (view_lt (h₁.view_some hv)) hstore hjournal)
  refine h₂.congr fun v' hv' => ?_
  obtain rfl : v = v' := by simpa [hv] using hv'
  rfl

section Finalize

variable {db db' : Db} (h : db.Sound) {p : PaymentId} {v : PaymentView}
  (hv : view db p = some v) {reservationId : ReservationId} {s : ReservationStatus}
  (hres : v.reservation = some (reservationId, s)) {reference : Option String}

include h hv hres

lemma PaymentOrchestrator.finalizeSucceeded_effect {amount : Decimal} {currency : String}
    {accounts : LedgerAccounts} (hstore : Amount.store amount = .ok v.amount)
    (hrun : finalizeSucceeded db p reservationId amount currency accounts reference = .ok db') :
    Effect p (fun _ => v.succeed .direct) db db' := by
  simp only [finalizeSucceeded] at hrun
  have h₁ := Effect.updateCharges h p (decided .succeeded reference) (fun _ => rfl)
    (fun _ => true) (fun _ => rfl) (fun _ => rfl) fun _ => rfl
  obtain ⟨db₂, hconsume, hrun⟩ := Except.bind_eq_ok.mp hrun
  obtain ⟨⟨transactionId, db₃⟩, hupsert, hrun⟩ := Except.bind_eq_ok.mp hrun
  obtain ⟨⟨journalId, db₄⟩, hjournal, hrun⟩ := Except.bind_eq_ok.mp hrun
  obtain rfl := Except.ok.inj hrun
  have h₂ := h₁.trans (Effect.settle h₁.sound (h₁.view_some hv) hres hconsume)
  have hfiles : db₂.FilesCapture db₃ p .direct amount := by
    rcases upsertCapture_eq_ok h₂.sound hupsert with hrow | ⟨stored, hstored, hfiles⟩
    · exact .inl hrow
    · exact .inr ⟨_, hstored, rfl, rfl, rfl, rfl, hfiles⟩
  have h₃ := h₂.trans (Effect.postCapture h₂.sound (h₂.view_some hv) hstore hfiles hjournal)
  have h₄ := h₃.trans (Effect.updateStatus h₃.sound p .succeeded reference)
  refine (h₄.enqueue _).congr fun v' hv' => ?_
  obtain rfl : v = v' := by simpa [hv] using hv'
  simp [PaymentView.succeed, PaymentView.postCapture, hres]

/-- `finalize` does nothing, or a step of the machine. -/
lemma PaymentOrchestrator.finalize_steps (hcharge : v.charge.isSome) {requestId : RequestId}
    {amount : Decimal} {currency : String} {accounts : LedgerAccounts} {outcome : ProviderOutcome}
    {status : PaymentStatus}
    (hrun : finalize db p requestId reservationId amount currency accounts outcome reference =
      .ok (status, db')) :
    db' = db ∨ ∃ f, Effect p f db db' ∧ PaymentStep (.finalize outcome) v (f v) := by
  obtain ⟨v', hv', hbinds, hcase⟩ := finalize_eq_ok h hrun
  obtain rfl : v = v' := by simpa [hv] using hv'
  have hsome : v.reservation.isSome := by simp [hres]
  rcases hcase with hsame | ⟨hexec, hcase⟩
  · exact .inl hsame
  cases outcome with
  | unknown =>
    rw [hcase]
    exact .inr ⟨_, finalizeUnknown_effect h p, .finalizeUnknown hexec hcharge hsome⟩
  | failed =>
    exact .inr ⟨_, finalizeFailed_effect h hv hres hcase, .finalizeFailed hexec hcharge hsome⟩
  | succeeded =>
    have hstore : Amount.store amount = .ok v.amount :=
      Amount.store_of_units (by rw [← hbinds.amount, Amount.units_toDecimal])
    exact .inr ⟨_, finalizeSucceeded_effect h hv hres hstore hcase,
      .finalizeSucceeded hexec hcharge hsome⟩

end Finalize

lemma Worker.finalize_steps {db db' : Db} (h : db.Sound) {c : Claim} {v : PaymentView}
    (hv : view db c.paymentId = some v) (hc : c.Describes v) {answer : ProviderAnswer}
    {status : PaymentStatus} (hrun : finalize db c answer = .ok (status, db')) :
    db' = db ∨ ∃ f, Effect c.paymentId f db db' ∧
      PaymentStep (.finalize answer.outcome) v (f v) := by
  obtain ⟨s, hres⟩ := hc.reservation
  exact PaymentOrchestrator.finalize_steps h hv hres hc.charge hrun

lemma Worker.finalize_moves {db db' : Db} (h : db.Sound) {c : Claim} (hc : c.Valid db)
    {answer : ProviderAnswer} {status : PaymentStatus}
    (hrun : finalize db c answer = .ok (status, db')) :
    Moves (.finalize answer.outcome) c.paymentId db db' := by
  obtain ⟨v, hv, hc⟩ := hc
  rcases finalize_steps h hv hc hrun with rfl | ⟨f, heffect, hstep⟩
  · exact Moves.refl _ _ h
  · exact Moves.of_effect hv heffect rfl hstep

end AgentPay
