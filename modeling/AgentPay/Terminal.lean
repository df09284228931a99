import AgentPay.Agreement

/-!
# Terminal statuses

`update_status` checks no transition. Every caller looks at the status under the row lock before
it writes, except the first phase of `process_one`: a terminal payment stays as it is as long as
no worker takes it up again.
-/

namespace AgentPay

open Support

/-- A status that is final, a refund of a SUCCEEDED payment apart. -/
def PaymentStatus.Terminal (status : PaymentStatus) : Prop :=
  status ∈ [.succeeded, .failed, .voided, .refunded]

instance : DecidablePred PaymentStatus.Terminal :=
  fun status => inferInstanceAs (Decidable (status ∈ _))

/-- The step is a refund of payment `p`. -/
def Action.Refunds (p : PaymentId) : Action → Prop
  | .refund q _ _ _ _ => q = p
  | _                 => False

/-- The step changes no terminal status, but that a refund may leave SUCCEEDED. -/
def KeepsTerminal (env : Env) (s : State) (a : Action) : Prop :=
  ∀ p payment payment', s.db.payments.get? p = some payment →
    (s.step env a).db.payments.get? p = some payment' → payment.status.Terminal →
    payment'.status = payment.status ∨ payment.status = .succeeded ∧ a.Refunds p

/-! ### The machine -/

/-- A REFUNDED payment has nothing left to refund. -/
def PaymentView.Exhausted (v : PaymentView) : Prop :=
  v.status = .refunded → v.transactions.captured = v.transactions.refunded

/-- The operation does not take up a terminal payment that has a reservation. -/
def PaymentOp.SparesTerminal (op : PaymentOp) (v : PaymentView) : Prop :=
  op = .mark → v.reservation.isSome → ¬ v.status.Terminal

instance (op : PaymentOp) (v : PaymentView) : Decidable (op.SparesTerminal v) := by
  unfold PaymentOp.SparesTerminal
  infer_instance

/-- Only the refund of exactly what is left makes a payment REFUNDED. -/
lemma PaymentStep.exhausted {op : PaymentOp} {v v' : PaymentView} (h : PaymentStep op v v') :
    v'.Exhausted := by
  cases h with
  | @refundSucceeded _ k raw amount h =>
    intro hstatus
    simp only [PaymentView.postRefund, PaymentView.putRefund] at hstatus ⊢
    split_ifs at hstatus with hleft
    -- the refund is a whole number of ten-thousandths, so it is stored as it is
    have hunits : k.1.units = (v.transactions.captured : ℚ) - v.transactions.refunded := by
      linarith
    have hle : v.transactions.refunded ≤ v.transactions.captured := by
      have hpos := h.pos
      rw [hunits] at hpos
      exact_mod_cast (sub_pos.mp hpos).le
    have hstored : (amount.units : ℤ) = roundUnits k.1.units := Amount.store_eq_ok.mp h.amount
    rw [hunits, ← Nat.cast_sub hle, roundUnits_natCast] at hstored
    simp only [TransactionView.putRefund, if_pos]
    omega
  | _ => exact fun hstatus => by cases hstatus

/-- What can move a terminal payment. -/
lemma PaymentStep.terminal {op : PaymentOp} {v v' : PaymentView} (h : PaymentStep op v v')
    (hreg : v.Regular) (hv : v.Exhausted) (hspares : op.SparesTerminal v)
    (hterminal : v.status.Terminal) :
    (∃ outcome, op = .refund outcome) ∧ v.status = .succeeded := by
  have hrefund : ∀ {k raw amount}, v.Refundable k raw amount → v.status = .succeeded := by
    intro k raw amount h
    rcases h.status with hs | hs | hs
    · exact hs
    · rw [hs] at hterminal
      exact absurd hterminal (by decide)
    · have hwithin := h.within
      rw [hv hs, sub_self] at hwithin
      exact absurd hwithin (not_le.mpr h.pos)
  cases h with
  | mark hres => exact absurd hterminal (hspares rfl hres)
  | finalizeUnknown h | finalizeFailed h | finalizeSucceeded h | eventFailed h | eventSucceeded h =>
    exfalso
    revert h hterminal
    cases v.status <;> decide
  | captureUnknown h | captureFailed h | captureSucceeded h | voidUnknown h | voidFailed h
  | voidSucceeded h | approve _ h =>
    rw [h] at hterminal
    exact absurd hterminal (by decide)
  | deny hpending =>
    rw [(hreg.waiting hpending).1] at hterminal
    exact absurd hterminal (by decide)
  | refundUnknown h | refundFailed h | refundSucceeded h => exact ⟨⟨_, rfl⟩, hrefund h⟩

/-- The only step about a payment under a refund is a refund of it. -/
lemma Action.refunds_of_target {env : Env} {s : State} {a : Action} {p : PaymentId}
    {outcome : ProviderOutcome} (h : a.target env s = some (p, .refund outcome)) : a.Refunds p := by
  cases a with
  | refund q => exact (Prod.mk.inj (Option.some.inj h)).1
  | finalize w =>
    simp only [Action.target] at h
    split at h <;> simp at h
  | webhook => simp [Action.target] at h
  | approve => simp [Action.target] at h
  | deny => simp [Action.target] at h
  | _ => simp [Action.target] at h

/-! ### Runs -/

/-- A step that takes up no terminal payment keeps every terminal status. -/
lemma State.step_keepsTerminal {env : Env} {s : State} {a : Action}
    (hs : s.Views PaymentView.Exhausted) (ha : a.Meets env PaymentOp.SparesTerminal s) :
    KeepsTerminal env s a := by
  intro p payment payment' hp hp' hterminal
  obtain ⟨hinv, hexhausted⟩ := hs
  have hfollows := step_follows hinv env a
  obtain ⟨v, hv⟩ := hinv.sound.view_some hp
  have hstatus : ∀ {db : Db} {x : Payment} {w : PaymentView}, db.payments.get? p = some x →
      view db p = some w → w.status = x.status := by
    intro db x w hx hw
    obtain ⟨x', request, hx', -, rfl⟩ := view_eq_some.mp hw
    obtain rfl : x = x' := by simpa [hx] using hx'
    rfl
  obtain ⟨v', hv', hsame | ⟨op, htarget, hstep⟩⟩ := hfollows.view_some hv
  · left
    rw [← hstatus hp' hv', ← hstatus hp hv, hsame]
  · rw [← hstatus hp hv] at hterminal
    obtain ⟨⟨outcome, rfl⟩, hsucceeded⟩ := hstep.terminal (hinv.regular p v hv)
      (hexhausted p v hv) (ha (p, op) htarget v hv) hterminal
    exact .inr ⟨(hstatus hp hv).symm.trans hsucceeded, Action.refunds_of_target htarget⟩

/-- In every run in which no worker takes up a terminal payment, no step changes a terminal status,
refunds of SUCCEEDED payments apart. -/
theorem run_keepsTerminal (env : Env) {db : Db} (hdb : db.Blank) {as : List Action}
    (has : Machine.Along (State.step env) (fun s a => a.Meets env PaymentOp.SparesTerminal s)
      (.start db) as) :
    Machine.Along (State.step env) (KeepsTerminal env) (.start db) as := by
  refine has.of_invariant (I := State.Views PaymentView.Exhausted) (fun s a hs ha => ?_)
    (fun s a hs ha => State.step_keepsTerminal hs ha) ⟨hdb.invariant, fun p v hv => ?_⟩
  · exact State.step_views
      (fun v hv _ => by simp [hv.transactions, TransactionView.empty])
      (fun op v v' _ _ _ hstep => hstep.exhausted) hs ha
  · exact fun _ => by simp [(hdb.view hv).transactions, TransactionView.empty]

/-- Two workers of which the second finds the answer of the first, and a full refund. -/
theorem run_keepsTerminal_refund :
    Machine.Along (State.step .bare) (KeepsTerminal .bare)
      (.start (.seeded .processing (some .reserved)))
      [.mark 0 ⟨0, 1⟩, .mark 0 ⟨0, 1⟩, .read 0, .charge 0 ⟨.succeeded, some "ref"⟩, .finalize 0,
        .read 1, .finalize 1, .refund 0 ⟨25, 0⟩ "USD" ⟨0, 1⟩ .succeeded] :=
  run_keepsTerminal .bare (Db.seeded_blank _ _) (by decide +kernel)

/-- A worker that was handed the payment before it was charged puts it back into PROCESSING after
it SUCCEEDED. -/
theorem run_leavesSucceeded :
    let db := Db.seeded .processing (some .reserved)
    db.Blank ∧ Worker.pendingForExecution db [] 25 = [0] ∧
      ¬ Machine.Along (State.step .bare) (KeepsTerminal .bare) (.start db)
        [.mark 0 ⟨0, 1⟩, .read 0, .charge 0 ⟨.succeeded, some "ref"⟩, .finalize 0,
          .mark 0 ⟨0, 1⟩] := by
  refine ⟨Db.seeded_blank _ _, by decide +kernel, ?_⟩
  rintro ⟨-, -, -, -, hlast, -⟩
  let s := Machine.run (State.step .bare) (.start (.seeded .processing (some .reserved)))
    [.mark 0 ⟨0, 1⟩, .read 0, .charge 0 ⟨.succeeded, some "ref"⟩, .finalize 0]
  have hbefore : (s.db.payments.get? 0).map (·.status) = some .succeeded := by decide +kernel
  have hafter : ((s.step .bare (.mark 0 ⟨0, 1⟩)).db.payments.get? 0).map (·.status) =
      some .processing := by decide +kernel
  obtain ⟨payment, hp, hstatus⟩ := Option.map_eq_some_iff.mp hbefore
  obtain ⟨payment', hp', hstatus'⟩ := Option.map_eq_some_iff.mp hafter
  rcases hlast 0 payment payment' hp hp' (by rw [hstatus]; decide) with hsame | ⟨-, hrefund⟩
  · rw [hstatus, hstatus'] at hsame
    cases hsame
  · exact hrefund

end AgentPay
