import AgentPay.Runs

/-!
# Transactions and journals of a payment

A capture can be posted under two transaction keys: the webhook resolver has one of its own, and
`finalize` shares the other with `lifecycle.capture`. The journal has one key. The ledger of a
payment stays balanced as long as the two keys are not used on one payment.
-/

namespace AgentPay

open Support

/-! ### The ledger of a payment -/

/-- The capture journals of a payment. -/
def captureJournals (db : Db) (p : PaymentId) : List LedgerJournal :=
  db.ledgerJournals.rows.filter fun j => decide (j.idempotencyKey = .capture p)

def JournalKey.IsRefund (p : PaymentId) : JournalKey → Prop
  | .capture _    => False
  | .refund q _ _ => q = p

instance (p : PaymentId) : DecidablePred (JournalKey.IsRefund p) := fun k => by
  cases k <;> unfold JournalKey.IsRefund <;> infer_instance

/-- The refund journals of a payment. -/
def refundJournals (db : Db) (p : PaymentId) : List LedgerJournal :=
  db.ledgerJournals.rows.filter fun j => decide (j.idempotencyKey.IsRefund p)

/-- What the transactions and the journals of a payment must have in common. -/
structure LedgerAgrees (db : Db) (p : PaymentId) : Prop where
  captures : postedCount db p .capture ≤ 1
  journals : (captureJournals db p).length ≤ 1
  debited : PaymentLifecycle.postedSum db p .capture =
    ((captureJournals db p).map (·.total .debit)).sum
  credited : PaymentLifecycle.postedSum db p .refund =
    ((refundJournals db p).map (·.total .credit)).sum

lemma sum_captureDebit (db : Db) (p : PaymentId) :
    (db.ledgerJournals.rows.map (·.captureDebit p)).sum =
      ((captureJournals db p).map (·.total .debit)).sum := by
  have hite : ∀ j : LedgerJournal,
      j.captureDebit p = if j.idempotencyKey = .capture p then j.total .debit else 0 := by
    intro j
    unfold LedgerJournal.captureDebit
    cases j.idempotencyKey <;> simp
  simp [hite, List.sum_map_ite, captureJournals]

lemma sum_refundCredit (db : Db) (p : PaymentId) :
    (db.ledgerJournals.rows.map (·.refundCredit p)).sum =
      ((refundJournals db p).map (·.total .credit)).sum := by
  have hite : ∀ j : LedgerJournal,
      j.refundCredit p = if j.idempotencyKey.IsRefund p then j.total .credit else 0 := by
    intro j
    unfold LedgerJournal.refundCredit
    cases j.idempotencyKey <;> simp [JournalKey.IsRefund]
  simp [hite, List.sum_map_ite, refundJournals]

/-! ### The invariant -/

/-- The books of one payment with at most one capture on them. A refund's journal is filed under
the currency as it was spelled, its transaction under the normalised one. -/
structure PaymentView.Balanced (v : PaymentView) : Prop where
  captures : v.transactions.captures = if v.journals.capture then 1 else 0
  captured : v.transactions.captured = if v.journals.capture then v.amount.units else 0
  debited : v.journals.debited = if v.journals.capture then v.amount.units else 0
  path : v.journals.capture = true ↔ ∃ path, v.transactions.capture path = true
  refunded : v.transactions.refunded = v.journals.credited
  booked : ∀ a raw, v.journals.refund (a, raw) = true →
    v.transactions.refund (a, normCurrency raw) = some .posted

/-- Nothing on the books is balanced. -/
lemma PaymentView.Balanced.empty {v : PaymentView} (htx : v.transactions = .empty)
    (hjournal : v.journals = .empty) : v.Balanced := by
  constructor <;> simp [htx, hjournal, TransactionView.empty, JournalView.empty]

/-- What the tables of a payment must say for its ledger to agree. -/
lemma ledgerAgrees_of {db : Db} {p : PaymentId} (hcaptures : (transactionView db p).captures ≤ 1)
    (hdebited : (transactionView db p).captured = (journalView db p).debited)
    (hcredited : (transactionView db p).refunded = (journalView db p).credited) :
    LedgerAgrees db p where
  captures := hcaptures
  journals := by
    simpa [captureJournals] using db.ledgerJournals.length_filter_key (JournalKey.capture p)
  debited := by
    rw [← sum_captureDebit]
    exact hdebited
  credited := by
    rw [← sum_refundCredit]
    exact hcredited

/-- A payment that does not exist has nothing on the books. -/
lemma Db.Sound.ledgerAgrees {db : Db} (h : db.Sound) {p : PaymentId} (hp : view db p = none) :
    LedgerAgrees db p := by
  have hlt : db.payments.nextId ≤ p := by
    by_contra hlt
    obtain ⟨v, hv⟩ := h.view_some (List.getElem?_eq_getElem (not_le.mp hlt))
    rw [hp] at hv
    cases hv
  obtain ⟨-, htx, hjournal⟩ := h.unbooked hlt
  refine ledgerAgrees_of ?_ ?_ ?_ <;>
    simp [htx, hjournal, TransactionView.empty, JournalView.empty]

/-- The balance of a payment shows in the tables. -/
lemma PaymentView.Balanced.agrees {db : Db} {p : PaymentId} {v : PaymentView}
    (h : v.Balanced) (hv : view db p = some v) : LedgerAgrees db p := by
  obtain ⟨-, -, htx, hjournal⟩ := view_tables hv
  have hcaptures : v.transactions.captures ≤ 1 := by
    refine le_of_eq_of_le h.captures ?_
    split_ifs <;> simp
  have hdebited : v.transactions.captured = v.journals.debited := h.captured.trans h.debited.symm
  have hcredited := h.refunded
  rw [htx] at hcaptures hdebited hcredited
  rw [hjournal] at hdebited hcredited
  exact ledgerAgrees_of hcaptures hdebited hcredited

/-! ### Steps -/

/-- The other key. -/
def CapturePath.other : CapturePath → CapturePath
  | .direct => .event
  | .event  => .direct

lemma CapturePath.eq_or_other (path q : CapturePath) : q = path ∨ q = path.other := by
  cases path <;> cases q <;> simp [CapturePath.other]

/-- The key under which an operation posts a capture on a payment. -/
def PaymentOp.posts (v : PaymentView) : PaymentOp → Option CapturePath
  | .finalize .succeeded => if v.status.Executable then some .direct else none
  | .event .succeeded    => if v.status.Resolvable then some .event else none
  | .capture .succeeded  => if v.status = .authorized then some .direct else none
  | _                    => none

/-- The operation does not post a capture under one key while the payment has the capture of the
other. -/
def PaymentOp.KeepsKey (op : PaymentOp) (v : PaymentView) : Prop :=
  ∀ path, op.posts v = some path → v.transactions.capture path.other = false

instance (op : PaymentOp) (v : PaymentView) : Decidable (op.KeepsKey v) :=
  decidable_of_iff (∀ path ∈ op.posts v, v.transactions.capture path.other = false) Iff.rfl

lemma PaymentView.Balanced.postCapture {v : PaymentView} (h : v.Balanced) (path : CapturePath)
    (hother : v.transactions.capture path.other = false) : (v.postCapture path).Balanced := by
  by_cases hpath : v.transactions.capture path = true
  · have hjournal : v.journals.capture = true := h.path.mpr ⟨path, hpath⟩
    have hsame : v.postCapture path = v := by
      simp [PaymentView.postCapture, TransactionView.postCapture, JournalView.postCapture, hpath,
        hjournal]
    rwa [hsame]
  · -- no capture is on the books yet
    have hjournal : v.journals.capture = false := by
      rw [← Bool.not_eq_true, h.path]
      rintro ⟨q, hq⟩
      rcases path.eq_or_other q with rfl | rfl
      · exact hpath hq
      · rw [hother] at hq
        cases hq
    obtain ⟨hcaptures, hcaptured, hdebited, -, hrefunded, hbooked⟩ := h
    rw [hjournal] at hcaptures hcaptured hdebited
    constructor <;>
      simp_all [PaymentView.postCapture, TransactionView.postCapture, JournalView.postCapture]
    exact ⟨path, by simp⟩

/-- A status, a charge or a reservation is no part of the balance. -/
lemma PaymentView.Balanced.congr {v w : PaymentView} (h : v.Balanced)
    (hamount : w.amount = v.amount) (htx : w.transactions = v.transactions)
    (hjournal : w.journals = v.journals) : w.Balanced := by
  obtain ⟨h₁, h₂, h₃, h₄, h₅, h₆⟩ := h
  constructor <;> simp only [hamount, htx, hjournal] <;> assumption

/-- A refund row that is not posted leaves the balance alone. -/
lemma PaymentView.Balanced.putRefund {v : PaymentView} (h : v.Balanced) {k : Decimal × String}
    {raw : String} {amount : Amount} (hk : v.Refundable k raw amount)
    {rowStatus : TransactionStatus} (hrow : rowStatus ≠ .posted) (status : PaymentStatus) :
    (v.putRefund k rowStatus amount status).Balanced := by
  obtain ⟨hcaptures, hcaptured, hdebited, hpath, hrefunded, hbooked⟩ := h
  refine ⟨hcaptures, hcaptured, hdebited, hpath, ?_, fun a raw' hj => ?_⟩
  · simp [PaymentView.putRefund, TransactionView.putRefund, hrow, hrefunded]
  · have hposted := hbooked a raw' hj
    have hne : (a, normCurrency raw') ≠ k := by
      rintro rfl
      rcases hk.unsettled with hnone | hpending
      · rw [hposted] at hnone
        cases hnone
      · rw [hposted] at hpending
        cases hpending
    simpa [PaymentView.putRefund, TransactionView.putRefund, hne] using hposted

/-- A posted refund adds as much on both sides. -/
lemma PaymentView.Balanced.postRefund {v : PaymentView} (h : v.Balanced) {k : Decimal × String}
    {raw : String} {amount : Amount} (hk : v.Refundable k raw amount) (status : PaymentStatus) :
    (v.postRefund k raw amount status).Balanced := by
  obtain ⟨hcaptures, hcaptured, hdebited, hpath, hrefunded, hbooked⟩ := h
  have hunposted : v.transactions.refund k ≠ some .posted := by
    rcases hk.unsettled with hnone | hpending
    · simp [hnone]
    · simp [hpending]
  have hfree : v.journals.refund (k.1, raw) = false := by
    rw [← Bool.not_eq_true]
    intro hj
    exact hunposted (by simpa [← hk.currency] using hbooked k.1 raw hj)
  constructor
  · simpa [PaymentView.postRefund, PaymentView.putRefund, TransactionView.putRefund,
      JournalView.postRefund, hfree] using hcaptures
  · simpa [PaymentView.postRefund, PaymentView.putRefund, TransactionView.putRefund,
      JournalView.postRefund, hfree] using hcaptured
  · simpa [PaymentView.postRefund, PaymentView.putRefund, TransactionView.putRefund,
      JournalView.postRefund, hfree] using hdebited
  · simpa [PaymentView.postRefund, PaymentView.putRefund, TransactionView.putRefund,
      JournalView.postRefund, hfree] using hpath
  · simp [PaymentView.postRefund, PaymentView.putRefund, TransactionView.putRefund,
      JournalView.postRefund, hfree, hrefunded]
  · intro a raw' hj
    by_cases hak : (a, normCurrency raw') = k
    · simp [PaymentView.postRefund, PaymentView.putRefund, TransactionView.putRefund, hak]
    · have hne : (a, raw') ≠ (k.1, raw) := by
        intro heq
        obtain ⟨rfl, rfl⟩ := Prod.mk.inj heq
        exact hak (Prod.ext rfl hk.currency.symm)
      have hold : v.journals.refund (a, raw') = true := by
        simpa [PaymentView.postRefund, JournalView.postRefund, hfree, hne] using hj
      simpa [PaymentView.postRefund, PaymentView.putRefund, TransactionView.putRefund, hak] using
        hbooked a raw' hold

/-- The machine keeps the balance at every step that keeps to one key. -/
lemma PaymentStep.balanced {op : PaymentOp} {v v' : PaymentView} (h : PaymentStep op v v')
    (hv : v.Balanced) (hkey : op.KeepsKey v) : v'.Balanced := by
  cases h with
  | finalizeSucceeded h =>
    refine (hv.postCapture .direct ?_).congr rfl rfl rfl
    exact hkey .direct (if_pos h)
  | eventSucceeded h =>
    refine (hv.postCapture .event ?_).congr rfl rfl rfl
    exact hkey .event (if_pos h)
  | captureSucceeded h =>
    refine (hv.postCapture .direct ?_).congr rfl rfl rfl
    exact hkey .direct (if_pos h)
  | refundUnknown h => exact hv.putRefund h (by decide) _
  | refundFailed h => exact hv.putRefund h (by decide) _
  | refundSucceeded h => exact hv.postRefund h _
  | _ => exact hv.congr rfl rfl rfl

/-! ### Runs -/

/-- In every run whose steps keep to one capture key for each payment, the transactions and the
journals of every payment agree in every state. -/
theorem run_ledgerAgrees (env : Env) {db : Db} (hdb : db.Blank) {as : List Action}
    (has : Machine.Along (State.step env) (fun s a => a.Meets env PaymentOp.KeepsKey s)
      (.start db) as) (p : PaymentId) :
    LedgerAgrees (Machine.run (State.step env) (.start db) as).db p := by
  have hviews := State.run_views (J := PaymentView.Balanced)
    (fun v hv => .empty hv.transactions hv.journals)
    (fun op v v' _ hv hkey hstep => hstep.balanced hv hkey)
    ⟨hdb.invariant, fun p v hv => .empty (hdb.view hv).transactions (hdb.view hv).journals⟩ has
  cases hv : view (Machine.run (State.step env) (.start db) as).db p with
  | none => exact hviews.1.sound.ledgerAgrees hv
  | some v => exact (hviews.2 p v hv).agrees hv

/-- A charge, a worker that comes too late to find anything to do, and a partial refund. -/
theorem run_ledgerAgrees_refund :
    LedgerAgrees (Machine.run (State.step .bare) (.start (.seeded .processing (some .reserved)))
      [.mark 0 ⟨0, 1⟩, .mark 0 ⟨0, 1⟩, .read 0, .charge 0 ⟨.succeeded, some "ref"⟩, .finalize 0,
        .read 1, .finalize 1, .refund 0 ⟨10, 0⟩ "USD" ⟨0, 1⟩ .succeeded]).db 0 :=
  run_ledgerAgrees .bare (Db.seeded_blank _ _) (by decide +kernel) 0

/-- A worker that starts late puts a captured payment back into PROCESSING, and the provider's event
posts its capture a second time: two captures against one journal. -/
theorem run_capturedTwice :
    let db := Db.seeded .processing (some .reserved)
    db.Blank ∧ Worker.pendingForExecution db [] 25 = [0] ∧
      ¬ LedgerAgrees (Machine.run (State.step .bare) (.start db)
        [.mark 0 ⟨0, 1⟩, .read 0, .charge 0 ⟨.succeeded, some "ref"⟩, .finalize 0,
          .mark 0 ⟨0, 1⟩, .webhook 0 (.of "event" "payment.succeeded" "ref")]).db 0 := by
  refine ⟨Db.seeded_blank _ _, by decide +kernel, fun h => ?_⟩
  have htwo := h.captures
  revert htwo
  decide +kernel

end AgentPay
