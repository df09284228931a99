import AgentPay.Coherence

/-!
# Denials

`active_policy` selects one policy of the account for a payment and `create_payment` asks that one
alone. A payment that the selected policy denies never holds a reservation and is never charged;
what the other policies of the account say of it is not asked.
-/

namespace AgentPay

open Support

/-! ### Charges need a reservation -/

/-- A reservation row is for the request of the payment. -/
def Db.Reserved (db : Db) (p : PaymentId) : Prop :=
  ∃ payment row, db.payments.get? p = some payment ∧ row ∈ db.budgetReservations.rows ∧
    row.paymentRequestId = payment.paymentRequestId

/-- The view shows the reservation of a payment. -/
lemma Db.Sound.reserved_iff {db : Db} (h : db.Sound) {p : PaymentId} {v : PaymentView}
    (hv : view db p = some v) : db.Reserved p ↔ v.reservation.isSome := by
  obtain ⟨payment, request, hp, hr, rfl⟩ := view_eq_some.mp hv
  have hview : (viewOf db p payment request).reservation = reservationView db request := rfl
  rw [hview]
  constructor
  · rintro ⟨payment', row, hp', hrow, hrequest⟩
    obtain rfl := Option.some.inj (hp.symm.trans hp')
    obtain ⟨r, hr'⟩ := List.mem_iff_getElem?.mp hrow
    obtain ⟨request', hrequest', hlink⟩ := h.linked r row hr'
    rw [hrequest] at hrequest'
    obtain rfl := Option.some.inj (hr.symm.trans hrequest')
    obtain ⟨status, hstatus⟩ := h.reservationView_eq hr hlink
    rw [hstatus]
    rfl
  · intro hres
    cases hlink : request.budgetReservationId with
    | none =>
      rw [reservationView, hlink] at hres
      cases hres
    | some r =>
      obtain ⟨row, hrow, hrequest⟩ := h.reservation _ request r hr hlink
      exact ⟨payment, row, hp, Table.mem_of_get? hrow, hrequest⟩

/-- What a charge is sent for is in a worker's hands. -/
lemma State.step_charged {env : Env} {s : State} {a : Action} {p : PaymentId}
    (hp : p ∈ (s.step env a).charged) :
    p ∈ s.charged ∨ ∃ (w : ℕ) (c : Worker.Claim), s.workers[w]? = some (.calling c) ∧
      c.paymentId = p := by
  cases a with
  | charge w answer =>
    simp only [step] at hp
    split at hp
    · rename_i c hcalling
      rcases List.mem_append.mp hp with hp | hp
      · exact .inl hp
      · exact .inr ⟨w, c, hcalling, (List.mem_singleton.mp hp).symm⟩
    · exact .inl hp
  | mark p accounts =>
    simp only [step] at hp
    split at hp <;> exact .inl hp
  | read w =>
    simp only [step] at hp
    split at hp
    · split at hp <;> exact .inl hp
    · exact .inl hp
  | finalize w | openPayment now call =>
    simp only [step] at hp
    split at hp <;> exact .inl hp
  | insertRequest c now =>
    simp only [step, insert, accepted] at hp
    split at hp
    · split at hp
      · exact .inl hp
      · split at hp
        · split at hp <;> exact .inl hp
        · exact .inl hp
    · exact .inl hp
  | commitPayment c now =>
    simp only [step, accepted] at hp
    split at hp
    · split at hp <;> exact .inl hp
    · exact .inl hp
  | _ => exact .inl hp

lemma PaymentStep.reserved {op : PaymentOp} {v v' : PaymentView} (hstep : PaymentStep op v v')
    (h : v.reservation.isSome) : v'.reservation.isSome := by
  cases hstep with
  | finalizeFailed | finalizeSucceeded | eventFailed | eventSucceeded =>
    simpa [PaymentView.fail, PaymentView.succeed] using h
  | approve => rfl
  | _ => exact h

/-- A payment that was charged holds a reservation. -/
theorem State.Occurs.charged_reserved {env : Env} {s : State} (h : s.Occurs env) :
    ∀ p ∈ s.charged, s.db.Reserved p := by
  have hviews : ∀ p ∈ s.charged, ∃ v, view s.db p = some v ∧ v.reservation.isSome := by
    refine h.invariant (I := fun s => ∀ p ∈ s.charged, ∃ v, view s.db p = some v ∧
      v.reservation.isSome) (fun db _ p hp => absurd hp List.not_mem_nil) ?_
    intro s a hs hcharged p hp
    have hreserved : ∃ v, view s.db p = some v ∧ v.reservation.isSome := by
      rcases State.step_charged hp with hp | ⟨w, c, hcalling, rfl⟩
      · exact hcharged p hp
      · obtain ⟨v, hv, hdescribes⟩ :=
          hs.reachable.invariant.claims _ (List.mem_of_getElem? hcalling) c rfl
        obtain ⟨status, hres⟩ := hdescribes.reservation
        exact ⟨v, hv, by rw [hres]; rfl⟩
    exact hs.keeps (fun _ _ _ _ hres hstep => hstep.reserved hres) hreserved [a]
  intro p hp
  obtain ⟨v, hv, hres⟩ := hviews p hp
  exact (h.reachable.invariant.sound.reserved_iff hv).mpr hres

/-! ### A payment that is barred -/

/-- No reservation, and no approval that could bring one. -/
def PaymentView.Barred (v : PaymentView) : Prop := v.reservation = none ∧ v.pending = 0

lemma PaymentStep.barred {op : PaymentOp} {v v' : PaymentView} (hstep : PaymentStep op v v')
    (h : v.Barred) : v'.Barred := by
  obtain ⟨hnone, hpending⟩ := h
  cases hstep with
  | mark hres | finalizeUnknown _ _ hres | finalizeFailed _ _ hres | finalizeSucceeded _ _ hres
  | eventSucceeded _ _ hres =>
    rw [hnone] at hres
    cases hres
  | eventFailed =>
    refine ⟨?_, hpending⟩
    simp [PaymentView.fail, hnone]
  | approve hpos | deny hpos => omega
  | _ => exact ⟨hnone, hpending⟩

/-- What is barred stays without a reservation and without a charge. -/
theorem State.Occurs.barred {env : Env} {s : State} (h : s.Occurs env) {p : PaymentId}
    (hv : ∃ v, view s.db p = some v ∧ v.Barred) (as : List Action) :
    ¬(Machine.run (State.step env) s as).db.Reserved p ∧
      p ∉ (Machine.run (State.step env) s as).charged := by
  obtain ⟨v, hv, hnone, -⟩ := h.keeps (fun _ _ _ _ hbarred hstep => hstep.barred hbarred) hv as
  have hunreserved : ¬(Machine.run (State.step env) s as).db.Reserved p := by
    rw [(h.run as).reachable.invariant.sound.reserved_iff hv, hnone]
    exact Bool.false_ne_true
  exact ⟨hunreserved, fun hp => hunreserved ((h.run as).charged_reserved p hp)⟩

/-- A payment that is created in FAILED is barred. -/
lemma PaymentView.Created.barred {v : PaymentView} (h : v.Created) (hfailed : v.status = .failed) :
    v.Barred := by
  rcases h.state with ⟨-, hnone, hpending⟩ | ⟨hwaits, -⟩ | ⟨hstarts, -⟩
  · exact ⟨hnone, hpending⟩
  · rw [hfailed] at hwaits
    cases hwaits
  · rw [hfailed] at hstarts
    cases hstarts

/-- The view of the payment that a verdict creates. -/
lemma Verdict.Commits.created {env : Env} {now : Time} {db db' : Db} {i : Intake} {v : Verdict}
    {amount : Amount} {merchantId : Option MerchantId}
    {target : Option (PaymentId × PaymentOp)} (h : v.Commits env now db i amount merchantId db')
    (hfollows : Follows target db db') :
    ∃ w, view db' db.payments.nextId = some w ∧ w.Created ∧ w.status = v.status := by
  have hnew : db'.payments.get? db.payments.nextId = some (v.payment db i amount) :=
    (Table.get?_of_rows_append h.payments _).trans (if_pos rfl)
  obtain ⟨w, hw⟩ := hfollows.sound.view_some hnew
  refine ⟨w, hw, ?_, ?_⟩
  · rcases hfollows.view_eq_some hw with hold | ⟨op, v, -, hold, -⟩ | ⟨-, hcreated⟩
    · cases (view_nextId db).symm.trans hold
    · cases (view_nextId db).symm.trans hold
    · exact hcreated
  · obtain ⟨payment, request, hp, -, rfl⟩ := view_eq_some.mp hw
    obtain rfl := Option.some.inj (hnew.symm.trans hp)
    rfl

/-! ### The policies of an account -/

/-- Some ACTIVE policy of the account, by its latest ACTIVE version, denies the intake. -/
def Intake.Denied (i : Intake) (db : Db) : Prop :=
  ∃ row ∈ ControlRepository.activePolicies db i.request.accountId,
    (∀ other ∈ ControlRepository.activePolicies db i.request.accountId,
      other.policyId = row.policyId → other.version ≤ row.version) ∧
    row.decision i = some .deny

instance (i : Intake) (db : Db) : Decidable (i.Denied db) := by
  unfold Intake.Denied
  infer_instance

/-- A step honours denials when the policy that `active_policy` selects for the payment it creates
denies whatever some ACTIVE policy of the account denies. -/
def Action.HonoursDenials (s : State) (a : Action) : Prop :=
  ∀ i ∈ s.deciding a, i.Denied s.db → ∀ row ∈ i.policy s.db, row.decision i = some .deny

instance (s : State) (a : Action) : Decidable (a.HonoursDenials s) := by
  unfold Action.HonoursDenials
  infer_instance

/-- The verdict on an intake is the decision of the selected policy. -/
lemma Verdict.Justified.decision {db : Db} {i : Intake} {v : Verdict} (h : v.Justified db i)
    (hdenies : ∀ row ∈ i.policy db, row.decision i = some .deny) :
    ∃ versionId, v = .denied versionId := by
  cases h with
  | missing => exact ⟨_, rfl⟩
  | denied => exact ⟨_, rfl⟩
  | unfunded hrow hdecision hne =>
    exact absurd (Option.some.inj (hdecision.symm.trans (hdenies _ hrow))) hne
  | waits hrow hdecision =>
    cases hdecision.symm.trans (hdenies _ hrow)
  | @starts row b notify hrow hdecision =>
    have heq := Option.some.inj (hdecision.symm.trans (hdenies _ hrow))
    cases notify <;> cases heq

/-- A payment that is denied when it is created is barred. -/
lemma State.Occurs.created_barred {env : Env} {s : State} (h : s.Occurs env) {a : Action}
    (hhonours : a.HonoursDenials s) {i : Intake} (hi : i ∈ s.deciding a) (hdenied : i.Denied s.db)
    {payment : Payment}
    (hnew : (s.step env a).db.payments.get? s.db.payments.nextId = some payment) :
    ∃ v, view (s.step env a).db s.db.payments.nextId = some v ∧ v.Barred := by
  obtain ⟨c, now, i', v, amount, merchantId, -, hi', hjustified, hcommits⟩ :=
    State.step_created hnew
  obtain rfl := Option.some.inj (hi'.symm.trans hi)
  obtain ⟨versionId, rfl⟩ := hjustified.decision (hhonours i' hi hdenied)
  obtain ⟨view', hview, hcreated, hstatus⟩ :=
    hcommits.created (State.step_follows h.reachable.invariant env a)
  exact ⟨view', hview, hcreated.barred hstatus⟩

/-- In a run whose steps honour denials, a payment that some ACTIVE policy of its account denies
when it is created never holds a reservation and is never charged. -/
theorem run_honoursDenials {env : Env} {db : Db} (hfresh : db.Fresh) {as bs : List Action}
    {a : Action} (hrun : Machine.Along (State.step env) (fun s a => a.HonoursDenials s) (.start db)
      (as ++ a :: bs)) {s : State} (hs : Machine.run (State.step env) (.start db) as = s)
    {i : Intake} (hi : i ∈ s.deciding a) (hdenied : i.Denied s.db) {payment : Payment}
    (hnew : (s.step env a).db.payments.get? s.db.payments.nextId = some payment) :
    ¬(Machine.run (State.step env) s (a :: bs)).db.Reserved s.db.payments.nextId ∧
      s.db.payments.nextId ∉ (Machine.run (State.step env) s (a :: bs)).charged := by
  subst hs
  have hoccurs : (Machine.run (State.step env) (.start db) as).Occurs env := ⟨db, as, hfresh, rfl⟩
  have hhonours := (Machine.along_append.mp hrun).2.1
  exact (hoccurs.step a).barred (hoccurs.created_barred hhonours hi hdenied hnew) bs

/-- A policy that limits a transaction to 10 USD. -/
def SpendingPolicy.strict : SpendingPolicy := { perTransactionLimit := .finite ⟨10, 0⟩ }

/-- A call for 60 USD that names the first policy is made. -/
def Action.namePolicy : List Action :=
  [.openPayment 0 { CreateCall.sample "key" 60 with
    request := { (CreateCall.sample "key" 60).request with policyId := some 0 } },
   .insertRequest 0 0]

/-- It is about to be decided. -/
def State.undecided (rules : List SpendingPolicy) : State :=
  Machine.run (step Env.sample) (.start (Db.sample rules)) Action.namePolicy

/-- The denial of the only policy is final. -/
theorem run_honoursDenials_sample :
    ¬(Machine.run (State.step Env.sample) (.undecided [.strict])
        [.commitPayment 0 0, .mark 0 ⟨0, 1⟩]).db.Reserved
          (State.undecided [.strict]).db.payments.nextId ∧
      (State.undecided [.strict]).db.payments.nextId ∉
        (Machine.run (State.step Env.sample) (.undecided [.strict])
          [.commitPayment 0 0, .mark 0 ⟨0, 1⟩]).charged := by
  have hdenied : ∃ i ∈ (State.undecided [.strict]).deciding (.commitPayment 0 0),
      i.Denied (State.undecided [.strict]).db := by decide +kernel
  obtain ⟨i, hi, hdenied⟩ := hdenied
  have hnew : (((State.undecided [.strict]).step Env.sample (.commitPayment 0 0)).db.payments.get?
      (State.undecided [.strict]).db.payments.nextId).isSome = true := by decide +kernel
  obtain ⟨payment, hnew⟩ := Option.isSome_iff_exists.mp hnew
  have hrun : Machine.Along (State.step Env.sample) (fun s a => a.HonoursDenials s)
      (.start (Db.sample [.strict]))
      (Action.namePolicy ++ .commitPayment 0 0 :: [.mark 0 ⟨0, 1⟩]) := by decide +kernel
  exact run_honoursDenials (Db.sample_fresh [.strict]) hrun rfl hi hdenied hnew

/-- The second policy denies what the call asks for, and the first one, which the call names, lets
it through to a charge. -/
theorem denial_bypassed :
    ∃ i ∈ (State.undecided [.sample, .strict]).deciding (.commitPayment 0 0),
      i.Denied (State.undecided [.sample, .strict]).db ∧
      (Machine.run (State.step Env.sample) (.undecided [.sample, .strict])
        [.commitPayment 0 0, .mark 0 ⟨0, 1⟩, .read 0,
          .charge 0 ⟨.succeeded, some "ref"⟩]).db.Reserved
            (State.undecided [.sample, .strict]).db.payments.nextId ∧
      (State.undecided [.sample, .strict]).db.payments.nextId ∈
        (Machine.run (State.step Env.sample) (.undecided [.sample, .strict])
          [.commitPayment 0 0, .mark 0 ⟨0, 1⟩, .read 0,
            .charge 0 ⟨.succeeded, some "ref"⟩]).charged := by
  have hdenied : ∃ i ∈ (State.undecided [.sample, .strict]).deciding (.commitPayment 0 0),
      i.Denied (State.undecided [.sample, .strict]).db := by decide +kernel
  obtain ⟨i, hi, hdenied⟩ := hdenied
  have hoccurs : (State.undecided [.sample, .strict]).Occurs Env.sample :=
    ⟨_, _, Db.sample_fresh _, rfl⟩
  have hcharged : (State.undecided [.sample, .strict]).db.payments.nextId ∈
      (Machine.run (State.step Env.sample) (.undecided [.sample, .strict])
        [.commitPayment 0 0, .mark 0 ⟨0, 1⟩, .read 0,
          .charge 0 ⟨.succeeded, some "ref"⟩]).charged := by decide +kernel
  exact ⟨i, hi, hdenied, (hoccurs.run _).charged_reserved _ hcharged, hcharged⟩

end AgentPay
