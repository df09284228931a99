import AgentPay.Support.Machine
import AgentPay.System

/-!
# Runs of the system follow the payment machine

Every step of the system is a step of the machine of the one payment it is about, or it creates a
payment, and this holds from any state that a run reaches. A property of one payment's view that
the machine keeps therefore holds along every run.
-/

namespace AgentPay

open Support

/-! ### What the machine keeps -/

lemma PaymentStep.regular {op : PaymentOp} {v v' : PaymentView} (h : PaymentStep op v v')
    (hv : v.Regular) : v'.Regular := by
  obtain ⟨hsingle, hwaiting⟩ := hv
  have hidle : v.status ≠ .approvalRequired → v.pending = 0 := fun hne => by
    by_contra hpos
    exact hne (hwaiting (Nat.pos_of_ne_zero hpos)).1
  have hrest : ∀ {w : PaymentView}, v.pending = 0 → w.pending = v.pending → w.Regular :=
    fun h₀ hw => ⟨by omega, fun hpos => by omega⟩
  cases h with
  | mark hres =>
    refine hrest ?_ rfl
    by_contra hpos
    rw [(hwaiting (Nat.pos_of_ne_zero hpos)).2] at hres
    cases hres
  | finalizeUnknown h | finalizeFailed h | finalizeSucceeded h =>
    exact hrest (hidle fun heq => by rw [heq] at h; revert h; decide) rfl
  | eventFailed h | eventSucceeded h =>
    exact hrest (hidle fun heq => by rw [heq] at h; revert h; decide) rfl
  | captureUnknown h | captureFailed h | captureSucceeded h | voidUnknown h | voidFailed h
  | voidSucceeded h =>
    exact hrest (hidle (by rw [h]; decide)) rfl
  | refundUnknown h | refundFailed h | refundSucceeded h =>
    exact hrest (hidle (by rcases h.status with h | h | h <;> rw [h] <;> decide)) rfl
  | approve hpending h id =>
    have hzero : v.pending - 1 = 0 := by omega
    exact ⟨by simp [hzero], fun hpos => absurd hpos (by simp [hzero])⟩
  | deny hpending =>
    have hzero : v.pending - 1 = 0 := by omega
    exact ⟨by simp [hzero], fun hpos => absurd hpos (by simp [hzero])⟩

/-- What a worker has read of a payment stays true of it. -/
lemma PaymentStep.describes {op : PaymentOp} {v v' : PaymentView} (h : PaymentStep op v v')
    (hv : v.Regular) {c : Worker.Claim} (hc : c.Describes v) : c.Describes v' := by
  obtain ⟨hreq, hamount, hcur, hcharge, s, hres⟩ := hc
  cases h with
  | mark => exact ⟨hreq, hamount, hcur, by simp [PaymentView.mark], s, hres⟩
  | finalizeFailed | finalizeSucceeded | eventFailed | eventSucceeded =>
    exact ⟨hreq, hamount, hcur, by simpa [PaymentView.fail, PaymentView.succeed] using hcharge, _,
      by simp [PaymentView.fail, PaymentView.succeed, PaymentView.postCapture, hres]; rfl⟩
  | approve hpending h id =>
    rw [(hv.waiting hpending).2] at hres
    cases hres
  | _ => exact ⟨hreq, hamount, hcur, hcharge, s, hres⟩

lemma PaymentView.Created.regular {v : PaymentView} (h : v.Created) : v.Regular := by
  rcases h.state with ⟨-, -, h⟩ | ⟨hs, hr, h⟩ | ⟨-, h, -⟩
  · exact ⟨by omega, fun hpos => by omega⟩
  · exact ⟨by omega, fun _ => ⟨hs, hr⟩⟩
  · exact ⟨by omega, fun hpos => by omega⟩

/-! ### What every run keeps -/

/-- What holds in every state the system reaches. -/
structure State.Invariant (s : State) : Prop where
  sound : s.db.Sound
  regular : ∀ p v, view s.db p = some v → v.Regular
  claims : ∀ phase ∈ s.workers, ∀ c ∈ phase.claim?, c.Valid s.db

/-- The database step is one of payment `p`'s machine under an operation that `target` names, or
it creates a payment. -/
def Follows (target : Option (PaymentId × PaymentOp)) (db db' : Db) : Prop :=
  (∃ p op, target = some (p, op) ∧ Moves op p db db') ∨ Creates db db'

lemma Follows.refl (target : Option (PaymentId × PaymentOp)) {db : Db} (h : db.Sound) :
    Follows target db db :=
  .inr (Effect.refl db.payments.nextId h).creates

lemma Follows.commit {α : Type} {target : Option (PaymentId × PaymentOp)} {db : Db}
    (h : db.Sound) {body : Except Error (α × Db)}
    (hbody : ∀ x db', body = .ok (x, db') → Follows target db db') :
    Follows target db (db.commit (body.map (·.2))) := by
  cases body with
  | error e => exact .refl target h
  | ok r => exact hbody r.1 r.2 rfl

/-- Where a view comes from: it is the old one, or the machine made it of the old one, or it is
new. -/
lemma Follows.view_eq_some {target : Option (PaymentId × PaymentOp)} {db db' : Db}
    (h : Follows target db db') {q : PaymentId} {v' : PaymentView} (hv' : view db' q = some v') :
    view db q = some v' ∨
      (∃ op v, target = some (q, op) ∧ view db q = some v ∧ PaymentStep op v v') ∨
      q = db.payments.nextId ∧ v'.Created := by
  rcases h with ⟨p, op, htarget, f, heff, hstep⟩ | hcreates
  · by_cases hq : q = p
    · subst hq
      rw [heff.here, Option.map_eq_some_iff] at hv'
      obtain ⟨v, hv, rfl⟩ := hv'
      rcases hstep v hv with hsame | hstep
      · exact .inl (by rw [hsame, hv])
      · exact .inr (.inl ⟨op, v, htarget, hv, hstep⟩)
    · exact .inl (by rw [← heff.others q hq, hv'])
  · by_cases hq : q = db.payments.nextId
    · subst hq
      exact .inr (.inr ⟨rfl, hcreates.created v' hv'⟩)
    · exact .inl (by rw [← hcreates.others q hq, hv'])

lemma Follows.sound {target : Option (PaymentId × PaymentOp)} {db db' : Db}
    (h : Follows target db db') : db'.Sound := by
  rcases h with ⟨p, op, -, f, heff, -⟩ | hcreates
  · exact heff.sound
  · exact hcreates.sound

/-- A view is never lost. -/
lemma Follows.view_some {target : Option (PaymentId × PaymentOp)} {db db' : Db}
    (h : Follows target db db') {q : PaymentId} {v : PaymentView} (hv : view db q = some v) :
    ∃ v', view db' q = some v' ∧
      (v' = v ∨ ∃ op, target = some (q, op) ∧ PaymentStep op v v') := by
  rcases h with ⟨p, op, htarget, f, heff, hstep⟩ | hcreates
  · by_cases hq : q = p
    · subst hq
      refine ⟨f v, heff.view_some hv, ?_⟩
      rcases hstep v hv with hsame | hstep
      · exact .inl hsame
      · exact .inr ⟨op, htarget, hstep⟩
    · exact ⟨v, by rw [heff.others q hq, hv], .inl rfl⟩
  · have hq : q ≠ db.payments.nextId := (view_lt hv).ne
    exact ⟨v, by rw [hcreates.others q hq, hv], .inl rfl⟩

lemma Follows.valid {target : Option (PaymentId × PaymentOp)} {db db' : Db}
    (h : Follows target db db') (hreg : ∀ p v, view db p = some v → v.Regular)
    {c : Worker.Claim} (hc : c.Valid db) : c.Valid db' := by
  obtain ⟨v, hv, hc⟩ := hc
  obtain ⟨v', hv', rfl | ⟨op, -, hstep⟩⟩ := h.view_some hv
  · exact ⟨v', hv', hc⟩
  · exact ⟨v', hv', hstep.describes (hreg _ v hv) hc⟩

/-! ### Steps -/

section Step

variable {env : Env} {s : State} (h : s.Invariant)

include h

/-- A creation's transaction creates a payment, or nothing. -/
lemma State.accepted_follows (target : Option (PaymentId × PaymentOp)) (now : Time) (c : ℕ)
    (i : Intake) : Follows target s.db (s.accepted env now c i).db := by
  simp only [accepted]
  split
  · rename_i outcome db heq
    exact .inr (acceptPayment_creates h.sound heq)
  · exact .refl _ h.sound

lemma State.insert_follows (target : Option (PaymentId × PaymentOp)) (now : Time) (c : ℕ)
    (i : Intake) : Follows target s.db (s.insert env now c i).db := by
  simp only [insert]
  split_ifs
  · exact .refl _ h.sound
  · split
    · exact accepted_follows h target now c i
    · exact .refl _ h.sound

/-- Every step follows the machine of the payment it is about. -/
theorem State.step_follows (env : Env) (a : Action) :
    Follows (a.target env s) s.db (s.step env a).db := by
  have hs := h.sound
  cases a with
  | configure c =>
    have hunseen : Effect s.db.payments.nextId (fun v => v) s.db (s.step env (.configure c)).db :=
      Effect.of_unseen _ (fun _ => rfl) ⟨hs.1, hs.2, hs.3, hs.4, hs.5, hs.6, hs.7⟩
    exact .inr hunseen.creates
  | mark p accounts =>
    simp only [step]
    split
    · rename_i claim db heq
      exact .inl ⟨p, .mark, rfl, (Worker.mark_moves hs heq).1⟩
    · exact .refl _ hs
  | read w =>
    simp only [step]
    split
    · split <;> exact .refl _ hs
    · exact .refl _ hs
  | charge w answer =>
    simp only [step]
    split <;> exact .refl _ hs
  | finalize w =>
    simp only [step, Action.target]
    split
    · rename_i claim answer heq
      refine .commit hs fun status db' hrun => .inl ⟨_, _, rfl, ?_⟩
      have hvalid := h.claims _ (List.mem_of_getElem? heq) claim rfl
      exact Worker.finalize_moves hs hvalid hrun
    · exact .refl _ hs
  | webhook now delivery =>
    refine .commit hs fun status db' hrun => ?_
    obtain ⟨eventId, eventType, reference, hread, happly⟩ := providerWebhook_eq_ok hrun
    rcases applyEvent_moves hs happly with ⟨events, rfl⟩ | ⟨p, outcome, htarget, hmoves⟩
    · have hunseen : Effect s.db.payments.nextId (fun v => v) s.db
          { s.db with providerEvents := events } :=
        Effect.of_unseen _ (fun _ => rfl) (hs.providerEvents events)
      exact .inr hunseen.creates
    · exact .inl ⟨p, .event outcome, by simp [Action.target, Delivery.target, hread, htarget],
        hmoves⟩
  | capture p amount currency accounts outcome =>
    refine .commit hs fun status db' hrun => ?_
    obtain ⟨progress, hcapture, hanswer⟩ := Except.bind_eq_ok.mp hrun
    exact .inl ⟨_, _, rfl, PaymentLifecycle.capture_moves hs hcapture hanswer⟩
  | void p amount currency outcome =>
    refine .commit hs fun status db' hrun => ?_
    obtain ⟨progress, hvoid, hanswer⟩ := Except.bind_eq_ok.mp hrun
    exact .inl ⟨_, _, rfl, PaymentLifecycle.void_moves hs hvoid hanswer⟩
  | refund p amount currency accounts outcome =>
    refine .commit hs fun status db' hrun => ?_
    obtain ⟨progress, hrefund, hanswer⟩ := Except.bind_eq_ok.mp hrun
    exact .inl ⟨_, _, rfl, PaymentLifecycle.refund_moves hs hrefund hanswer⟩
  | settle report =>
    refine .commit hs fun status db' hrun => .inr ?_
    exact (SettlementRepository.ingest_effect hs hrun s.db.payments.nextId).creates
  | openPayment now call =>
    simp only [step]
    split <;> exact .refl _ hs
  | insertRequest c now =>
    simp only [step]
    split
    · exact insert_follows h _ now c _
    · exact .refl _ hs
  | commitPayment c now =>
    simp only [step]
    split
    · exact accepted_follows h _ now c _
    · exact .refl _ hs
  | abandonPayment c => exact .refl _ hs
  | approve now id reason authorization =>
    refine .commit hs fun x db' hrun => ?_
    obtain ⟨p, status⟩ := x
    obtain ⟨htarget, hmoves⟩ := approvePayment_moves hs h.regular hrun
    exact .inl ⟨_, _, by simp [Action.target, htarget], hmoves⟩
  | deny id reason authorization =>
    refine .commit hs fun x db' hrun => ?_
    obtain ⟨p, status⟩ := x
    obtain ⟨htarget, hmoves⟩ := denyPayment_moves hs hrun
    exact .inl ⟨_, _, by simp [Action.target, htarget], hmoves⟩

/-- What a worker holds after a step it held before, or has just read. -/
lemma State.step_claims (a : Action) {phase : Phase} (hphase : phase ∈ (s.step env a).workers)
    {c : Worker.Claim} (hc : c ∈ phase.claim?) :
    (∃ phase' ∈ s.workers, c ∈ phase'.claim?) ∨ c.Valid (s.step env a).db := by
  have hset : ∀ {w new}, phase ∈ s.workers.set w new → (c ∈ new.claim? →
      ∃ phase' ∈ s.workers, c ∈ phase'.claim?) → ∃ phase' ∈ s.workers, c ∈ phase'.claim? := by
    intro w new hmem hnew
    rcases List.mem_or_eq_of_mem_set hmem with hmem | rfl
    · exact ⟨phase, hmem, hc⟩
    · exact hnew hc
  have haccepted : ∀ now creation i, (s.accepted env now creation i).workers = s.workers := by
    intro now creation i
    simp only [accepted]
    split <;> rfl
  cases a with
  | mark p accounts =>
    simp only [step] at hphase ⊢
    split at hphase
    · rename_i claim db heq
      rcases List.mem_append.mp hphase with hmem | hmem
      · exact .inl ⟨phase, hmem, hc⟩
      · obtain rfl := List.mem_singleton.mp hmem
        obtain rfl : claim = c := by simpa [Phase.claim?] using hc
        exact .inr (Worker.mark_moves h.sound heq).2.2
    · exact .inl ⟨phase, hphase, hc⟩
  | read w =>
    simp only [step] at hphase
    split at hphase
    · rename_i claim heq
      have hold : c = claim → ∃ phase' ∈ s.workers, c ∈ phase'.claim? := by
        rintro rfl
        exact ⟨_, List.mem_of_getElem? heq, rfl⟩
      split at hphase
      · exact .inl (hset hphase fun hnew => hold (by simpa [Phase.claim?, eq_comm] using hnew))
      · exact .inl (hset hphase fun hnew => hold (by simpa [Phase.claim?, eq_comm] using hnew))
    · exact .inl ⟨phase, hphase, hc⟩
  | charge w answer =>
    simp only [step] at hphase
    split at hphase
    · rename_i claim heq
      refine .inl (hset hphase fun hnew => ⟨_, List.mem_of_getElem? heq, ?_⟩)
      simpa [Phase.claim?] using hnew
    · exact .inl ⟨phase, hphase, hc⟩
  | finalize w =>
    simp only [step] at hphase
    split at hphase
    · exact .inl (hset hphase fun hnew => by simp [Phase.claim?] at hnew)
    · exact .inl ⟨phase, hphase, hc⟩
  | openPayment now call =>
    simp only [step] at hphase
    split at hphase <;> exact .inl ⟨phase, hphase, hc⟩
  | insertRequest creation now =>
    simp only [step] at hphase
    split at hphase
    · simp only [insert] at hphase
      split_ifs at hphase
      · exact .inl ⟨phase, hphase, hc⟩
      · split at hphase
        · exact .inl ⟨phase, by rwa [haccepted] at hphase, hc⟩
        · exact .inl ⟨phase, hphase, hc⟩
    · exact .inl ⟨phase, hphase, hc⟩
  | commitPayment creation now =>
    simp only [step] at hphase
    split at hphase
    · exact .inl ⟨phase, by rwa [haccepted] at hphase, hc⟩
    · exact .inl ⟨phase, hphase, hc⟩
  | _ => exact .inl ⟨phase, hphase, hc⟩

/-- The invariant holds after every step. -/
theorem State.step_invariant (a : Action) : (s.step env a).Invariant := by
  have hfollows := step_follows h env a
  refine ⟨hfollows.sound, fun q v' hv' => ?_, ?_⟩
  · rcases hfollows.view_eq_some hv' with hv | ⟨op, v, -, hv, hstep⟩ | ⟨-, hcreated⟩
    · exact h.regular q v' hv
    · exact hstep.regular (h.regular q v hv)
    · exact hcreated.regular
  · intro phase hphase c hc
    rcases step_claims h a hphase hc with ⟨phase', hphase', hc'⟩ | hvalid
    · exact hfollows.valid h.regular (h.claims phase' hphase' c hc')
    · exact hvalid

end Step

/-! ### Runs -/

/-- A state with nothing in flight satisfies the invariant when its rows do. -/
lemma State.Invariant.start {db : Db} (hs : db.Sound)
    (hreg : ∀ p v, view db p = some v → v.Regular) : (State.start db).Invariant :=
  ⟨hs, hreg, fun _ hphase => by simp [State.start] at hphase⟩

/-- A database before any payment was worked on: rows that belong together, and nothing on the
books. -/
structure Db.Blank (db : Db) : Prop where
  sound : db.Sound
  approvals : db.approvals = []
  providerOperations : db.providerOperations.rows = []
  transactions : db.transactions.rows = []
  ledgerJournals : db.ledgerJournals.rows = []

/-- What a view of such a database is like. -/
structure PaymentView.Blank (v : PaymentView) : Prop where
  charge : v.charge = none
  pending : v.pending = 0
  transactions : v.transactions = .empty
  journals : v.journals = .empty

lemma Db.Blank.view {db : Db} (h : db.Blank) {p : PaymentId} {v : PaymentView}
    (hv : AgentPay.view db p = some v) : v.Blank := by
  obtain ⟨hcharge, hpending, htx, hjournal⟩ := view_tables hv
  have hops : ∀ k, db.providerOperations.row? k = none := fun k => by
    simp [Table.row?_eq_none, h.providerOperations]
  have htxs : ∀ k, db.transactions.row? k = none := fun k => by
    simp [Table.row?_eq_none, h.transactions]
  have hjournals : ∀ k, db.ledgerJournals.row? k = none := fun k => by
    simp [Table.row?_eq_none, h.ledgerJournals]
  refine ⟨by simp [hcharge, hops], by simp [hpending, pendingApprovals, h.approvals], ?_, ?_⟩
  · simp [htx, transactionView, TransactionView.empty, htxs, postedCount,
      PaymentLifecycle.postedSum, h.transactions]
  · simp [hjournal, journalView, JournalView.empty, hjournals, h.ledgerJournals]

/-- From such a database every state of a run satisfies the invariant. -/
lemma Db.Blank.invariant {db : Db} (h : db.Blank) : (State.start db).Invariant :=
  .start h.sound fun p v hv => by
    have hpending := (h.view hv).pending
    exact ⟨by omega, fun hpos => by omega⟩

/-- A step meets `C` when the view of the payment it is about does. -/
def Action.Meets (env : Env) (C : PaymentOp → PaymentView → Prop) (s : State) (a : Action) :
    Prop :=
  ∀ x ∈ a.target env s, ∀ v ∈ view s.db x.1, C x.2 v

instance {env : Env} {C : PaymentOp → PaymentView → Prop} [∀ op v, Decidable (C op v)] (s : State)
    (a : Action) : Decidable (a.Meets env C s) := by
  unfold Action.Meets
  infer_instance

/-- Every payment's view satisfies `J`. -/
def State.Views (J : PaymentView → Prop) (s : State) : Prop :=
  s.Invariant ∧ ∀ p v, view s.db p = some v → J v

/-- A property of created payments that the machine keeps at every step meeting `C` is kept by
the system at every step meeting `C`. -/
theorem State.step_views {env : Env} {C : PaymentOp → PaymentView → Prop}
    {J : PaymentView → Prop} (hcreated : ∀ v, v.Created → J v)
    (hstep : ∀ op v v', v.Regular → J v → C op v → PaymentStep op v v' → J v') {s : State}
    {a : Action} (hs : s.Views J) (hC : a.Meets env C s) : (s.step env a).Views J := by
  obtain ⟨hinv, hJ⟩ := hs
  refine ⟨step_invariant hinv a, fun q v' hv' => ?_⟩
  rcases (step_follows hinv env a).view_eq_some hv' with
    hv | ⟨op, v, htarget, hv, hmoves⟩ | ⟨-, hnew⟩
  · exact hJ q v' hv
  · exact hstep op v v' (hinv.regular q v hv) (hJ q v hv) (hC (q, op) htarget v hv) hmoves
  · exact hcreated v' hnew

/-- And so it holds of every payment in every state of a run whose steps all meet `C`. -/
theorem State.run_views {env : Env} {C : PaymentOp → PaymentView → Prop} {J : PaymentView → Prop}
    (hcreated : ∀ v, v.Created → J v)
    (hstep : ∀ op v v', v.Regular → J v → C op v → PaymentStep op v v' → J v') {s : State}
    (hs : s.Views J) {as : List Action}
    (hC : Machine.Along (step env) (fun s a => a.Meets env C s) s as) :
    (Machine.run (step env) s as).Views J :=
  hC.invariant (fun _ _ => step_views hcreated hstep) hs

/-! ### A seeded database -/

/-- 25.0000 -/
def Amount.seeded : Amount := ⟨250000, by decide, by decide⟩

/-- One account with a wallet, a budget of 100 USD and a provider account, and on it one payment of
25 USD with the status and the reservation given. -/
def Db.seeded (status : PaymentStatus) (reservation : Option ReservationStatus) : Db where
  merchants := []
  policies := []
  policyVersions := []
  wallets := [⟨"account", "USD", true⟩]
  ledgerAccounts := [⟨some 0⟩, ⟨none⟩]
  paymentProviderAccounts := [⟨"mock", "USD", 1, true⟩]
  budgets :=
    [{ accountId := "account", policyId := none, currency := "USD", limitAmount := 1000000,
       consumedAmount := if reservation = some .consumed then 250000 else 0,
       reservedAmount := if reservation = some .reserved then 250000 else 0, active := true }]
  budgetReservations :=
    match reservation with
    | none => .empty
    | some status => ⟨[⟨0, 0, .seeded, "USD", status⟩], by simp⟩
  authorizationEvidence := []
  paymentRequests :=
    ⟨[{ accountId := "account", agentId := "agent", merchantId := none,
        amount := .seeded, currency := "USD", idempotencyKey := "key",
        requestFingerprint := none, policyVersionId := none, budgetId := some 0,
        budgetReservationId := reservation.map fun _ => 0, authorizationEvidenceId := none,
        authorizationContextHash := none }], by simp⟩
  payments :=
    ⟨[{ paymentRequestId := 0, amount := .seeded, currency := "USD", status,
        providerReference := none, providerOperationId := none }], by simp⟩
  approvals := []
  providerOperations := .empty
  providerEvents := .empty
  transactions := .empty
  ledgerJournals := .empty
  outboxEvents := []
  settlements := .empty
  reconciliationRecords := []

lemma Db.seeded_sound (status : PaymentStatus) (reservation : Option ReservationStatus) :
    (seeded status reservation).Sound := by
  refine ⟨fun p payment hp => ?_, fun i request r hi hlink => ?_, fun r row hrow => ?_,
    fun o ho => ?_, fun t ht => ?_, fun j hj => ?_, fun a ha => ?_⟩
  · obtain ⟨-, rfl⟩ : p = 0 ∧ _ = payment := by
      simpa [seeded, Table.get?, List.getElem?_cons, eq_comm, ite_eq_iff] using hp
    exact ⟨_, rfl⟩
  · obtain ⟨rfl, rfl⟩ : i = 0 ∧ _ = request := by
      simpa [seeded, Table.get?, List.getElem?_cons, eq_comm, ite_eq_iff] using hi
    cases reservation with
    | none => cases hlink
    | some s =>
      obtain rfl := Option.some.inj hlink
      exact ⟨_, rfl, rfl⟩
  · cases reservation with
    | none => simp [seeded, Table.get?] at hrow
    | some s =>
      obtain ⟨rfl, rfl⟩ : r = 0 ∧ _ = row := by
        simpa [seeded, Table.get?, List.getElem?_cons, eq_comm, ite_eq_iff] using hrow
      exact ⟨_, rfl, rfl⟩
  all_goals simp_all [seeded]

lemma Db.seeded_blank (status : PaymentStatus) (reservation : Option ReservationStatus) :
    (seeded status reservation).Blank :=
  ⟨seeded_sound status reservation, rfl, rfl, rfl, rfl⟩

/-- An environment without agents, approvers and replay window. -/
def Env.bare : Env where
  assertionConfigured := false
  decodeAssertion _ _ := none
  sha256 s := s
  digest _ := "digest"
  resolveBearer _ := .error (.permissionError "invalid token")
  resolveApprovalBearer _ := .error (.permissionError "invalid token")
  replayWindow := some 0
  locksOuterJoins := true

/-- A signed delivery. -/
def Delivery.of (eventId eventType providerReference : String) : Delivery where
  providerName := "mock"
  signed := true
  body := .object
    { eventId := some eventId, eventType := some eventType
      providerReference := some providerReference }

end AgentPay
