import AgentPay.CaptureLedger

/-!
# Status, reservation and ledger of a payment

`consume` and `release` leave a reservation alone that is no longer RESERVED, and say nothing. So
a second decision moves the status and the ledger without the reservation; and `PaymentLifecycle`
decides without settling a reservation at all. They agree as long as no decision contradicts what
the reservation then records.
-/

namespace AgentPay

open Support

/-! ### Agreement -/

/-- The reservations made for a payment. -/
def reservationsOf (db : Db) (payment : Payment) : List BudgetReservation :=
  db.budgetReservations.rows.filter fun r => decide (r.paymentRequestId = payment.paymentRequestId)

/-- The POSTED CAPTURE transactions of a payment. -/
def postedCaptures (db : Db) (p : PaymentId) : List Transaction :=
  db.transactions.rows.filter fun t =>
    decide (t.paymentId = p ∧ t.type = .capture ∧ t.status = .posted)

/-- The charge of a payment was decided, by a worker or by an event. -/
def ChargeDecided (db : Db) (p : PaymentId) : Prop :=
  ∃ o ∈ db.providerOperations.rows,
    o.paymentId = p ∧ o.operationType = .charge ∧ o.completed = true

/-- What the three tables must say together. -/
structure StatusAgrees (db : Db) (p : PaymentId) (payment : Payment) : Prop where
  succeeded : payment.status = .succeeded → ∀ r ∈ reservationsOf db payment,
    r.status = .consumed ∧ captureJournals db p ≠ []
  failed : payment.status = .failed ∨ payment.status = .voided →
    (∀ r ∈ reservationsOf db payment, r.status ≠ .reserved ∧ r.status ≠ .consumed) ∧
      postedCaptures db p = []
  undecided : payment.status = .processing ∨ payment.status = .unknownExternalOutcome →
    ¬ ChargeDecided db p → ∀ r ∈ reservationsOf db payment, r.status = .reserved

/-! ### The invariant -/

/-- What the status, the charge and the books of a payment are, by what its reservation says. -/
def PaymentView.Fits (v : PaymentView) : Option (ReservationId × ReservationStatus) → Prop
  | none =>
    v.charge = none ∧
      (v.status ∈ [.authorized, .approvalRequired, .failed, .voided, .voidFailed] →
        v.transactions.captures = 0)
  | some (_, .reserved) =>
    (v.status ∈ [.authorized, .voidFailed] ∨ v.status.Executable) ∧ v.charge ≠ some true ∧
      v.transactions.captures = 0
  | some (_, .released) =>
    (v.status = .failed ∨ v.status.Executable) ∧ v.charge = some true ∧
      v.transactions.captures = 0
  | some (_, .consumed) =>
    (v.status ∈ [.succeeded, .refundFailed, .refunded] ∨ v.status.Executable) ∧
      v.charge = some true ∧ v.journals.capture = true

section Fits

variable {v : PaymentView} {r : ReservationId} {s : ReservationStatus}

lemma PaymentView.Fits.succeeded (h : v.Fits (some (r, s))) (hstatus : v.status = .succeeded) :
    s = .consumed ∧ v.journals.capture = true := by
  cases s <;> simp_all [PaymentView.Fits, PaymentStatus.Executable]

lemma PaymentView.Fits.failed (h : v.Fits (some (r, s)))
    (hstatus : v.status = .failed ∨ v.status = .voided) : s = .released := by
  cases s <;> rcases hstatus with hstatus | hstatus <;>
    simp_all [PaymentView.Fits, PaymentStatus.Executable]

lemma PaymentView.Fits.uncaptured {res : Option (ReservationId × ReservationStatus)}
    (h : v.Fits res) (hstatus : v.status = .failed ∨ v.status = .voided) :
    v.transactions.captures = 0 := by
  rcases res with - | ⟨r, s⟩
  · exact h.2 (by rcases hstatus with h | h <;> simp [h])
  · obtain rfl := h.failed hstatus
    exact h.2.2

lemma PaymentView.Fits.undecided (h : v.Fits (some (r, s))) (hcharge : v.charge ≠ some true) :
    s = .reserved := by
  cases s <;> simp_all [PaymentView.Fits]

end Fits

/-- The reservation of a payment is the one its request links. -/
lemma reservation_of_mem {db : Db} (h : db.Sound) {p : PaymentId} {payment : Payment}
    (hp : db.payments.get? p = some payment) {v : PaymentView} (hv : view db p = some v)
    {row : BudgetReservation} (hrow : row ∈ reservationsOf db payment) :
    ∃ r, v.reservation = some (r, row.status) := by
  obtain ⟨hmem, howner⟩ := List.mem_filter.mp hrow
  obtain ⟨r, hr⟩ := List.getElem?_of_mem hmem
  obtain ⟨request, hreq, hlink⟩ := h.linked r row hr
  rw [of_decide_eq_true howner] at hreq
  obtain ⟨payment', request', hp', hreq', rfl⟩ := view_eq_some.mp hv
  obtain rfl : payment = payment' := by simpa [hp] using hp'
  obtain rfl : request = request' := by simpa [hreq] using hreq'
  have hget : db.budgetReservations.get? r = some row := hr
  exact ⟨r, by simp [viewOf, reservationView, hlink, hget]⟩

lemma chargeDecided_of {db : Db} (h : db.Sound) {p : PaymentId} {v : PaymentView}
    (hv : view db p = some v) (hcharge : v.charge = some true) : ChargeDecided db p := by
  rw [(view_tables hv).1, Option.map_eq_some_iff] at hcharge
  obtain ⟨o, ho, hcompleted⟩ := hcharge
  obtain ⟨hmem, hkey⟩ := Table.row?_eq_some.mp ho
  have hfiled := (h.operation o hmem).1
  simp only [Option.some.injEq] at hkey
  exact ⟨o, hmem, by rw [hfiled.payment, hkey]; rfl, by rw [hfiled.type, hkey]; rfl, hcompleted⟩

lemma postedCaptures_eq_nil {db : Db} {p : PaymentId} {v : PaymentView} (hv : view db p = some v)
    (hcaptures : v.transactions.captures = 0) : postedCaptures db p = [] := by
  rw [(view_tables hv).2.2.1] at hcaptures
  have hzero : postedCount db p .capture = 0 := hcaptures
  rw [postedCount, List.sum_eq_zero_iff] at hzero
  rw [postedCaptures, List.filter_eq_nil_iff]
  intro t ht hposted
  have := hzero _ (List.mem_map_of_mem ht)
  rw [if_pos (of_decide_eq_true hposted)] at this
  cases this

lemma captureJournals_ne_nil {db : Db} {p : PaymentId} {v : PaymentView} (hv : view db p = some v)
    (hcapture : v.journals.capture = true) : captureJournals db p ≠ [] := by
  rw [(view_tables hv).2.2.2] at hcapture
  obtain ⟨j, hj⟩ := Option.isSome_iff_exists.mp hcapture
  obtain ⟨hmem, hkey⟩ := Table.row?_eq_some.mp hj
  refine List.ne_nil_of_mem (List.mem_filter.mpr ⟨hmem, ?_⟩)
  simpa using hkey

/-- A payment that fits its reservation agrees in the tables. -/
lemma PaymentView.Fits.agrees {db : Db} (hs : db.Sound) {p : PaymentId} {payment : Payment}
    (hp : db.payments.get? p = some payment) {v : PaymentView} (hv : view db p = some v)
    (h : v.Fits v.reservation) : StatusAgrees db p payment := by
  have hstatus : payment.status = v.status := by
    obtain ⟨payment', request, hp', -, rfl⟩ := view_eq_some.mp hv
    obtain rfl : payment = payment' := by simpa [hp] using hp'
    rfl
  constructor
  · intro hsucceeded row hrow
    obtain ⟨r, hr⟩ := reservation_of_mem hs hp hv hrow
    rw [hr] at h
    obtain ⟨hconsumed, hcapture⟩ := h.succeeded (hstatus ▸ hsucceeded)
    exact ⟨hconsumed, captureJournals_ne_nil hv hcapture⟩
  · intro hfailed
    rw [hstatus] at hfailed
    refine ⟨fun row hrow => ?_, postedCaptures_eq_nil hv (h.uncaptured hfailed)⟩
    obtain ⟨r, hr⟩ := reservation_of_mem hs hp hv hrow
    rw [hr] at h
    simp [h.failed hfailed]
  · intro _ hundecided row hrow
    obtain ⟨r, hr⟩ := reservation_of_mem hs hp hv hrow
    rw [hr] at h
    exact h.undecided fun hcharge => hundecided (chargeDecided_of hs hv hcharge)

/-! ### Steps -/

/-- The decision an operation makes about a payment, as the reservation records it. -/
def PaymentOp.decides (v : PaymentView) : PaymentOp → Option ReservationStatus
  | .finalize .succeeded => if v.status.Executable then some .consumed else none
  | .finalize .failed    => if v.status.Executable then some .released else none
  | .event .succeeded    => if v.status.Resolvable then some .consumed else none
  | .event .failed       => if v.status.Resolvable then some .released else none
  | .capture .succeeded  => if v.status = .authorized then some .consumed else none
  | .capture .failed     => if v.status = .authorized then some .released else none
  | .void .succeeded     => if v.status = .authorized then some .released else none
  | _                    => none

/-- The operation settles a RESERVED reservation; `PaymentLifecycle` does not. -/
def PaymentOp.settles : PaymentOp → Bool
  | .finalize _ | .event _ => true
  | _                      => false

/-- The operation does not decide against the decision the reservation records once it is done. -/
def PaymentOp.KeepsDecision (op : PaymentOp) (v : PaymentView) : Prop :=
  ∀ decision ∈ op.decides v, ∀ r ∈ v.reservation,
    op.settles = true ∧ r.2 = .reserved ∨ r.2 = decision

instance (op : PaymentOp) (v : PaymentView) : Decidable (op.KeepsDecision v) := by
  unfold PaymentOp.KeepsDecision
  infer_instance

/-- What a payment fits: the reservation it has. -/
def PaymentView.Consistent (v : PaymentView) : Prop := v.Fits v.reservation

lemma PaymentView.Created.consistent {v : PaymentView} (h : v.Created) :
    v.Consistent := by
  rcases h.state with ⟨hs, hr, -⟩ | ⟨hs, hr, -⟩ | ⟨hs, -, id, hr⟩
  · simp [Consistent, Fits, hr, hs, h.charge, h.transactions, TransactionView.empty]
  · simp [Consistent, Fits, hr, hs, h.charge, h.transactions, TransactionView.empty]
  · simp [Consistent, Fits, hr, hs, h.charge, h.transactions, TransactionView.empty,
      PaymentStatus.Executable]

/-- A failed charge: the reservation is RELEASED, or was. -/
lemma PaymentView.Consistent.fail {v : PaymentView} {op : PaymentOp} (h : v.Consistent)
    (hcharge : v.charge.isSome)
    (hkeeps : ∀ r ∈ v.reservation, op.settles = true ∧ r.2 = .reserved ∨ r.2 = .released) :
    v.fail.Consistent := by
  obtain ⟨b, hb⟩ := Option.isSome_iff_exists.mp hcharge
  rcases hres : v.reservation with - | ⟨r, s⟩
  · simp [Consistent, Fits, hres, hb] at h
  · have hs := hkeeps (r, s) hres
    simp only [Consistent, hres] at h
    cases s <;> simp_all [Consistent, PaymentView.fail, Fits, ReservationStatus.settle]

/-- A successful charge: the reservation is CONSUMED, or was. -/
lemma PaymentView.Consistent.succeed {v : PaymentView} {op : PaymentOp} (h : v.Consistent)
    (path : CapturePath) (hcharge : v.charge.isSome)
    (hkeeps : ∀ r ∈ v.reservation, op.settles = true ∧ r.2 = .reserved ∨ r.2 = .consumed) :
    (v.succeed path).Consistent := by
  obtain ⟨b, hb⟩ := Option.isSome_iff_exists.mp hcharge
  have hjournal : (v.journals.postCapture v.amount).capture = true := by
    unfold JournalView.postCapture
    split_ifs with hcapture
    · exact hcapture
    · rfl
  rcases hres : v.reservation with - | ⟨r, s⟩
  · simp [Consistent, Fits, hres, hb] at h
  · have hs := hkeeps (r, s) hres
    simp only [Consistent, hres] at h
    cases s <;> simp_all [Consistent, PaymentView.succeed, PaymentView.postCapture, Fits,
      ReservationStatus.settle]

/-- A status that may follow an undecided or a captured one. -/
lemma PaymentView.Consistent.withStatus {v w : PaymentView} (h : v.Consistent)
    (hres : w.reservation = v.reservation) (hcharge : w.charge = v.charge)
    (hcaptures : w.transactions.captures = v.transactions.captures)
    (hjournal : v.journals.capture = true → w.journals.capture = true)
    (hstatus : v.status.Executable ∧ w.status.Executable ∨
      v.status ∈ [.succeeded, .refundFailed, .refunded] ∧
        (w.status ∈ [.succeeded, .refundFailed, .refunded] ∨ w.status.Executable)) :
    w.Consistent := by
  simp only [Consistent, hres] at h ⊢
  rcases hr : v.reservation with - | ⟨r, s⟩
  · rw [hr] at h
    refine ⟨hcharge.trans h.1, fun hmem => ?_⟩
    rcases hstatus with ⟨-, hw⟩ | ⟨-, hw | hw⟩
    · rcases hw with hw | hw <;> simp [hw] at hmem
    · simp only [List.mem_cons, List.not_mem_nil, or_false] at hw
      rcases hw with hw | hw | hw <;> simp [hw] at hmem
    · rcases hw with hw | hw <;> simp [hw] at hmem
  · rw [hr] at h
    rcases hstatus with ⟨hv, hw⟩ | ⟨hv, hw⟩
    · cases s <;> simp_all [Fits]
    · have hnot : ¬ v.status.Executable ∧ v.status ≠ .failed ∧ v.status ≠ .authorized ∧
          v.status ≠ .voidFailed := by
        simp only [List.mem_cons, List.not_mem_nil, or_false] at hv
        rcases hv with hv | hv | hv <;> rw [hv] <;> decide
      cases s <;> simp_all [Fits]

/-- An AUTHORIZED payment has no capture, and no reservation or a RESERVED one. -/
lemma PaymentView.Consistent.authorized {v : PaymentView} (h : v.Consistent)
    (hstatus : v.status = .authorized) :
    v.transactions.captures = 0 ∧ (v.reservation = none ∧ v.charge = none ∨
      v.charge ≠ some true ∧ ∃ r, v.reservation = some (r, .reserved)) := by
  rcases hr : v.reservation with - | ⟨r, s⟩
  · simp only [Consistent, hr] at h
    exact ⟨h.2 (by simp [hstatus]), .inl ⟨rfl, h.1⟩⟩
  · simp only [Consistent, hr] at h
    cases s <;> simp_all [Fits, PaymentStatus.Executable]

/-- A decision that settles no reservation is made where there is none. -/
lemma PaymentView.Consistent.unsettled {v : PaymentView} {op : PaymentOp} (h : v.Consistent)
    (hstatus : v.status = .authorized) (hkeeps : op.KeepsDecision v) (hsettles : op.settles = false)
    (decision : ReservationStatus) (hdecision : decision ≠ .reserved)
    (hdecides : op.decides v = some decision) :
    v.reservation = none ∧ v.charge = none ∧ v.transactions.captures = 0 := by
  obtain ⟨hcaptures, ⟨hres, hcharge⟩ | ⟨-, r, hres⟩⟩ := h.authorized hstatus
  · exact ⟨hres, hcharge, hcaptures⟩
  · rcases hkeeps decision hdecides _ hres with ⟨hs, -⟩ | hs
    · cases hsettles.symm.trans hs
    · exact absurd hs.symm hdecision

/-- Without a reservation anything goes that puts no capture on a payment that is not captured. -/
lemma PaymentView.Consistent.unreserved {w : PaymentView} (hres : w.reservation = none)
    (hcharge : w.charge = none)
    (hcaptures : w.transactions.captures = 0 ∨ w.status = .succeeded) : w.Consistent := by
  simp only [Consistent, hres]
  refine ⟨hcharge, fun hmem => ?_⟩
  rcases hcaptures with h | h
  · exact h
  · simp [h] at hmem

lemma PaymentView.Consistent.mark {v : PaymentView} (h : v.Consistent)
    (hres : v.reservation.isSome) : v.mark.Consistent := by
  rcases hr : v.reservation with - | ⟨r, s⟩
  · simp [hr] at hres
  · simp only [Consistent, hr] at h
    have hcharge : v.charge.getD false = true ↔ v.charge = some true := by
      cases v.charge <;> simp
    cases s <;> simp_all [Consistent, PaymentView.mark, Fits, PaymentStatus.Executable]

/-- What a capture or a void leaves AUTHORIZED that decides nothing. -/
lemma PaymentView.Consistent.undecided {v : PaymentView} (h : v.Consistent)
    (hstatus : v.status = .authorized) {status : PaymentStatus}
    (hnext : status = .unknownExternalOutcome ∨ status = .voidFailed) :
    (v.withStatus status).Consistent := by
  obtain ⟨hcaptures, ⟨hres, hcharge⟩ | ⟨hcharge, r, hres⟩⟩ := h.authorized hstatus
  · exact .unreserved hres hcharge (.inl hcaptures)
  · have hfits : status ∈ [.authorized, .voidFailed] ∨ status.Executable := by
      rcases hnext with rfl | rfl <;> decide
    rw [Consistent, show (v.withStatus status).reservation = some (r, .reserved) from hres]
    exact ⟨hfits, hcharge, hcaptures⟩

/-- The machine keeps a payment consistent at every step that keeps its decision. -/
lemma PaymentStep.consistent {op : PaymentOp} {v v' : PaymentView} (h : PaymentStep op v v')
    (hreg : v.Regular) (hv : v.Consistent) (hkeeps : op.KeepsDecision v) : v'.Consistent := by
  cases h with
  | finalizeFailed hexec hcharge => exact hv.fail hcharge (hkeeps .released (if_pos hexec))
  | finalizeSucceeded hexec hcharge =>
    exact hv.succeed .direct hcharge (hkeeps .consumed (if_pos hexec))
  | eventFailed hres hcharge => exact hv.fail hcharge (hkeeps .released (if_pos hres))
  | eventSucceeded hres hcharge =>
    exact hv.succeed .event hcharge (hkeeps .consumed (if_pos hres))
  | mark hres => exact hv.mark hres
  | finalizeUnknown hexec => exact hv.withStatus rfl rfl rfl id (.inl ⟨hexec, .inr rfl⟩)
  | captureUnknown h | voidUnknown h => exact hv.undecided h (.inl rfl)
  | voidFailed h => exact hv.undecided h (.inr rfl)
  | captureFailed h | voidSucceeded h =>
    obtain ⟨hres, hcharge, hcaptures⟩ :=
      hv.unsettled h hkeeps rfl .released (by decide) (if_pos h)
    exact .unreserved hres hcharge (.inl hcaptures)
  | captureSucceeded h =>
    obtain ⟨hres, hcharge, -⟩ :=
      hv.unsettled h hkeeps rfl .consumed (by decide) (if_pos h)
    exact .unreserved hres hcharge (.inr rfl)
  | refundUnknown h =>
    exact hv.withStatus rfl rfl rfl id (.inr ⟨by simpa using h.status, .inr (.inr rfl)⟩)
  | refundFailed h =>
    exact hv.withStatus rfl rfl rfl id
      (.inr ⟨by simpa using h.status, .inl (by simp [PaymentView.putRefund])⟩)
  | refundSucceeded h =>
    refine hv.withStatus rfl rfl rfl ?_ (.inr ⟨by simpa using h.status, .inl ?_⟩)
    · intro hcapture
      simp only [PaymentView.postRefund, JournalView.postRefund]
      split_ifs <;> exact hcapture
    · simp only [PaymentView.postRefund, PaymentView.putRefund]
      split_ifs <;> decide
  | approve hpending h =>
    have hnone := (hreg.waiting hpending).2
    simp only [PaymentView.Consistent, hnone] at hv
    simp [PaymentView.Consistent, PaymentView.Fits, PaymentStatus.Executable, hv.1,
      hv.2 (by simp [h])]
  | deny hpending =>
    obtain ⟨h, hnone⟩ := hreg.waiting hpending
    simp only [PaymentView.Consistent, hnone] at hv
    exact .unreserved hnone hv.1 (.inl (hv.2 (by simp [h])))

/-! ### Runs -/

/-- A blank database whose payments have no reservation, or are AUTHORIZED, PROCESSING or UNKNOWN
with a RESERVED one. -/
structure Db.Ready (db : Db) : Prop extends db.Blank where
  status : ∀ p v, view db p = some v → ∀ r ∈ v.reservation,
    r.2 = .reserved ∧ (v.status = .authorized ∨ v.status.Executable)

lemma Db.Ready.consistent {db : Db} (h : db.Ready) {p : PaymentId} {v : PaymentView}
    (hv : view db p = some v) : v.Consistent := by
  obtain ⟨hcharge, -, htx, -⟩ := h.toBlank.view hv
  have hcaptures : v.transactions.captures = 0 := by simp [htx, TransactionView.empty]
  rcases hr : v.reservation with - | ⟨r, s⟩
  · exact .unreserved hr hcharge (.inl hcaptures)
  · obtain ⟨rfl, hstatus⟩ := h.status p v hv (r, s) hr
    simp only [PaymentView.Consistent, hr]
    exact ⟨hstatus.imp_left fun hs => by simp [hs], by simp [hcharge], hcaptures⟩

lemma Db.seeded_ready {status : PaymentStatus}
    (h : status = .authorized ∨ status.Executable) :
    (seeded status (some .reserved)).Ready where
  toBlank := seeded_blank _ _
  status p v hv r hres := by
    obtain ⟨payment, request, hp, hr, rfl⟩ := view_eq_some.mp hv
    obtain ⟨rfl, rfl⟩ : p = 0 ∧ _ = payment := by
      simpa [seeded, Table.get?, List.getElem?_cons, eq_comm, ite_eq_iff] using hp
    obtain rfl := Option.some.inj hr
    obtain rfl := Option.some.inj hres
    exact ⟨rfl, h⟩

/-- In every run whose steps keep the decisions that are made, status, reservation and ledger of
every payment agree in every state. -/
theorem run_statusAgrees (env : Env) {db : Db} (hdb : db.Ready) {as : List Action}
    (has : Machine.Along (State.step env) (fun s a => a.Meets env PaymentOp.KeepsDecision s)
      (.start db) as) :
    ∀ p payment, (Machine.run (State.step env) (.start db) as).db.payments.get? p = some payment →
      StatusAgrees (Machine.run (State.step env) (.start db) as).db p payment := by
  have hviews := State.run_views (J := PaymentView.Consistent) (fun v hv => hv.consistent)
    (fun op v v' hreg hv hkeeps hstep => hstep.consistent hreg hv hkeeps)
    ⟨hdb.invariant, fun p v hv => hdb.consistent hv⟩ has
  intro p payment hp
  obtain ⟨v, hv⟩ := hviews.1.sound.view_some hp
  exact PaymentView.Fits.agrees hviews.1.sound hp hv (hviews.2 p v hv)

/-- A charge that fails, a worker that comes late, and an event that says again that it failed. -/
theorem run_statusAgrees_event :
    let s := Machine.run (State.step .bare) (.start (.seeded .processing (some .reserved)))
      [.mark 0 ⟨0, 1⟩, .read 0, .charge 0 ⟨.failed, some "ref"⟩, .finalize 0, .mark 0 ⟨0, 1⟩,
        .webhook 0 (.of "event" "payment.failed" "ref")]
    ∃ payment, s.db.payments.get? 0 = some payment ∧ StatusAgrees s.db 0 payment := by
  intro s
  have hsome : (s.db.payments.get? 0).isSome := by decide +kernel
  obtain ⟨payment, hp⟩ := Option.isSome_iff_exists.mp hsome
  have hready : (Db.seeded .processing (some .reserved)).Ready := Db.seeded_ready (.inr (.inl rfl))
  exact ⟨payment, hp, run_statusAgrees .bare hready (by decide +kernel) 0 payment hp⟩

/-- A worker that starts late puts a captured payment back into PROCESSING, and an event fails it:
the payment is FAILED, its reservation CONSUMED, its capture on the books. And a void leaves the
RESERVED reservation of an AUTHORIZED payment as it is. -/
theorem run_failedAfterCapture :
    let db := Db.seeded .processing (some .reserved)
    let s := Machine.run (State.step .bare) (.start db)
      [.mark 0 ⟨0, 1⟩, .read 0, .charge 0 ⟨.succeeded, some "ref"⟩, .finalize 0,
        .mark 0 ⟨0, 1⟩, .webhook 0 (.of "event" "payment.failed" "ref")]
    let authorized := Db.seeded .authorized (some .reserved)
    let t := (State.start authorized).step .bare (.void 0 ⟨25, 0⟩ "USD" .succeeded)
    (db.Ready ∧ Worker.pendingForExecution db [] 25 = [0] ∧
      ∃ payment, s.db.payments.get? 0 = some payment ∧ ¬ StatusAgrees s.db 0 payment) ∧
    authorized.Ready ∧
      ∃ payment, t.db.payments.get? 0 = some payment ∧ ¬ StatusAgrees t.db 0 payment := by
  intro db s authorized t
  constructor
  · have hs : (s.db.payments.get? 0).map (·.status) = some .failed ∧
        postedCaptures s.db 0 ≠ [] := by decide +kernel
    obtain ⟨payment, hp, hstatus⟩ := Option.map_eq_some_iff.mp hs.1
    exact ⟨Db.seeded_ready (.inr (.inl rfl)), by decide +kernel, payment, hp,
      fun h => hs.2 (h.failed (.inl hstatus)).2⟩
  · have ht : ∀ payment ∈ t.db.payments.get? 0, payment.status = .voided ∧
        ∃ r ∈ reservationsOf t.db payment, r.status = .reserved := by decide +kernel
    have hsome : (t.db.payments.get? 0).isSome := by decide +kernel
    obtain ⟨payment, hp⟩ := Option.isSome_iff_exists.mp hsome
    obtain ⟨hstatus, r, hr, hreserved⟩ := ht payment hp
    exact ⟨Db.seeded_ready (.inl rfl), payment, hp,
      fun h => ((h.failed (.inr hstatus)).1 r hr).1 hreserved⟩

end AgentPay
