import AgentPay.Renaming
import AgentPay.Authority

/-!
# Transactions of an account

`create_payment`, run on two databases that are alike for the account it pays from, is answered the
same and leaves them alike; in the first it writes rows of the account alone.
-/

namespace AgentPay

open Support

/-! ### Two runs -/

/-- Two runs of a transaction raise the same, or both return, with answers that `R` relates. -/
inductive Twin {α : Type} (A : String) (σ : Renaming) (s s' : Db) (R : α → α → Db → Prop) :
    Except Error (α × Db) → Except Error (α × Db) → Prop where
  | raises (e : Error) : Twin A σ s s' R (.error e) (.error e)
  | returns {a a' : α} {t t' : Db} (h : After A σ s s' t t') (ha : R a a' t) :
      Twin A σ s s' R (.ok (a, t)) (.ok (a', t'))

variable {A : String} {σ : Renaming} {s s' t t' : Db}

/-- What comes first may be any change. -/
lemma Twin.after {α : Type} {R : α → α → Db → Prop} {x x' : Except Error (α × Db)}
    (h : After A σ s s' t t') (hx : Twin A σ t t' R x x') : Twin A σ s s' R x x' := by
  cases hx with
  | raises e => exact .raises e
  | returns h' ha => exact .returns (h.trans h') ha

lemma Twin.elim {α : Type} {R : α → α → Db → Prop} {x x' : Except Error (α × Db)}
    (h : Twin A σ s s' R x x') : (∃ e, x = .error e ∧ x' = .error e) ∨
      ∃ a a' t t', x = .ok (a, t) ∧ x' = .ok (a', t') ∧ After A σ s s' t t' ∧ R a a' t := by
  cases h with
  | raises e => exact .inl ⟨e, rfl, rfl⟩
  | returns h ha => exact .inr ⟨_, _, _, _, rfl, rfl, h, ha⟩

/-- One transaction after the other. -/
lemma Twin.bind {α β : Type} {R : α → α → Db → Prop} {S : β → β → Db → Prop}
    {x x' : Except Error (α × Db)} {f f' : α × Db → Except Error (β × Db)}
    (h : Twin A σ s s' R x x') (hf : ∀ a a' t t', After A σ s s' t t' → R a a' t →
      Twin A σ t t' S (f (a, t)) (f' (a', t'))) : Twin A σ s s' S (x >>= f) (x' >>= f') := by
  cases h with
  | raises e => exact .raises e
  | returns h ha => exact (hf _ _ _ _ h ha).after h

namespace Db

/-! ### The tables that are written -/

variable (db : Db)

lemma writes_payments {x : Table Payment Payment.key} {f : List Payment → List Payment}
    (hx : x.rows = f db.payments.rows) : db.Writes .payments f { db with payments := x } := by
  refine ⟨hx, fun u hu => ?_, rfl, rfl⟩
  cases u with
  | payments => exact absurd rfl hu
  | _ => rfl

lemma writes_requests {x : Table PaymentRequest PaymentRequest.key}
    {f : List PaymentRequest → List PaymentRequest} (hx : x.rows = f db.paymentRequests.rows) :
    db.Writes .requests f { db with paymentRequests := x } := by
  refine ⟨hx, fun u hu => ?_, rfl, rfl⟩
  cases u with
  | requests => exact absurd rfl hu
  | _ => rfl

lemma writes_reservations {x : Table BudgetReservation BudgetReservation.key}
    {f : List BudgetReservation → List BudgetReservation}
    (hx : x.rows = f db.budgetReservations.rows) :
    db.Writes .reservations f { db with budgetReservations := x } := by
  refine ⟨hx, fun u hu => ?_, rfl, rfl⟩
  cases u with
  | reservations => exact absurd rfl hu
  | _ => rfl

lemma writes_operations {x : Table ProviderOperation ProviderOperation.key}
    {f : List ProviderOperation → List ProviderOperation}
    (hx : x.rows = f db.providerOperations.rows) :
    db.Writes .operations f { db with providerOperations := x } := by
  refine ⟨hx, fun u hu => ?_, rfl, rfl⟩
  cases u with
  | operations => exact absurd rfl hu
  | _ => rfl

lemma writes_transactions {x : Table Transaction Transaction.key}
    {f : List Transaction → List Transaction} (hx : x.rows = f db.transactions.rows) :
    db.Writes .transactions f { db with transactions := x } := by
  refine ⟨hx, fun u hu => ?_, rfl, rfl⟩
  cases u with
  | transactions => exact absurd rfl hu
  | _ => rfl

lemma writes_journals {x : Table LedgerJournal LedgerJournal.key}
    {f : List LedgerJournal → List LedgerJournal} (hx : x.rows = f db.ledgerJournals.rows) :
    db.Writes .journals f { db with ledgerJournals := x } := by
  refine ⟨hx, fun u hu => ?_, rfl, rfl⟩
  cases u with
  | journals => exact absurd rfl hu
  | _ => rfl

lemma writes_budgets (f : List Budget → List Budget) :
    db.Writes .budgets f { db with budgets := f db.budgets } := by
  refine ⟨rfl, fun u hu => ?_, rfl, rfl⟩
  cases u with
  | budgets => exact absurd rfl hu
  | _ => rfl

lemma writes_evidence (f : List AuthorizationEvidence → List AuthorizationEvidence) :
    db.Writes .evidence f { db with authorizationEvidence := f db.authorizationEvidence } := by
  refine ⟨rfl, fun u hu => ?_, rfl, rfl⟩
  cases u with
  | evidence => exact absurd rfl hu
  | _ => rfl

lemma writes_approvals (f : List Approval → List Approval) :
    db.Writes .approvals f { db with approvals := f db.approvals } := by
  refine ⟨rfl, fun u hu => ?_, rfl, rfl⟩
  cases u with
  | approvals => exact absurd rfl hu
  | _ => rfl

end Db

namespace Alike

/-! ### Updates -/

lemma enqueue (h : Alike A σ s s') (e e' : OutboxEvent) :
    After A σ s s' (AgentPay.enqueue s e) (AgentPay.enqueue s' e') :=
  h.of_rows (fun u => by cases u <;> rfl) (fun u => by cases u <;> rfl) h.merchants rfl rfl

lemma updatePayment (h : Alike A σ s s') {p : PaymentId}
    (hp : s.accountOf (.payment p) = some A) {f f' : Payment → Payment}
    (hf : ∀ r, (f r).key = r.key) (hf' : ∀ r, (f' r).key = r.key)
    (hff : ∀ r, f' (TableName.rename σ .payments r) = TableName.rename σ .payments (f r)) :
    After A σ s s' { s with payments := s.payments.update p f hf }
      { s' with payments := s'.payments.update (σ .payments p) f' hf' } := by
  obtain ⟨payment, -, -, hmem⟩ := mem_payment hp
  refine h.modify (u := .payments) rfl (by decide) (s.writes_payments (f := (·.modify p f)) rfl)
    (s'.writes_payments (f := (·.modify (σ .payments p) f')) rfl) hmem ?_ ?_ (fun _ _ => trivial)
    (fun _ _ => trivial) hff
  · intro r
    exact congrArg Owner.request (Option.some.inj (hf r))
  · intro r
    exact congrArg Owner.request (Option.some.inj (hf' r))

lemma updateStatus (h : Alike A σ s s') {p : PaymentId} (hp : s.accountOf (.payment p) = some A)
    (status : PaymentStatus) (reference : Option String) :
    After A σ s s' (PaymentRepository.updateStatus s p status reference)
      (PaymentRepository.updateStatus s' (σ .payments p) status reference) :=
  h.updatePayment hp _ _ fun _ => rfl

lemma setProviderOperation (h : Alike A σ s s') {p : PaymentId}
    (hp : s.accountOf (.payment p) = some A) (o : OperationId) :
    After A σ s s' (PaymentRepository.setProviderOperation s p o)
      (PaymentRepository.setProviderOperation s' (σ .payments p) (σ .operations o)) :=
  h.updatePayment hp _ _ fun _ => rfl

lemma updateRequest (h : Alike A σ s s') {r : RequestId} (hr : s.requestAccount r = some A)
    (f f' : PaymentRequest → PaymentRequest) (hf : ∀ r, (f r).key = r.key)
    (hf' : ∀ r, (f' r).key = r.key)
    (hff : ∀ r, f' (TableName.rename σ .requests r) = TableName.rename σ .requests (f r)) :
    After A σ s s' { s with paymentRequests := s.paymentRequests.update r f hf }
      { s' with paymentRequests := s'.paymentRequests.update (σ .requests r) f' hf' } := by
  obtain ⟨request, -, hmem⟩ := mem_request hr
  refine h.modify (u := .requests) rfl (by decide) (s.writes_requests (f := (·.modify r f)) rfl)
    (s'.writes_requests (f := (·.modify (σ .requests r) f')) rfl) hmem ?_ ?_ (fun _ _ => trivial)
    (fun _ _ => trivial) hff
  · intro r
    exact congrArg Owner.account (Prod.mk.inj (Option.some.inj (hf r))).1
  · intro r
    exact congrArg Owner.account (Prod.mk.inj (Option.some.inj (hf' r))).1

lemma bindBudget (h : Alike A σ s s') {r : RequestId} (hr : s.requestAccount r = some A)
    (b : BudgetId) :
    After A σ s s' (ControlRepository.bindBudget s r b)
      (ControlRepository.bindBudget s' (σ .requests r) b) :=
  h.updateRequest hr _ _ _ _ fun _ => rfl

lemma linkReservation (h : Alike A σ s s') {r : RequestId} (hr : s.requestAccount r = some A)
    (id : ReservationId) :
    After A σ s s' (PaymentOrchestrator.linkReservation s r id)
      (PaymentOrchestrator.linkReservation s' (σ .requests r) (σ .reservations id)) :=
  h.updateRequest hr _ _ _ _ fun _ => rfl

end Alike

/-! ### What belongs to the account afterwards -/

lemma After.requestAccount (h : After A σ s s' t t') (hs : s.Refs) {r : RequestId}
    (hr : s.requestAccount r = some A) : t.requestAccount r = some A :=
  h.confined.accountOf (o := .request r) hs hr

lemma After.paymentAccount (h : After A σ s s' t t') (hs : s.Refs) {p : PaymentId}
    (hp : s.accountOf (.payment p) = some A) : t.accountOf (.payment p) = some A :=
  h.confined.accountOf hs hp

/-! ### Creating -/

/-- The rows a table can be extended by. -/
lemma exists_insert? {ρ κ : Type} [DecidableEq κ] {key : ρ → Option κ} {T T' : Table ρ key}
    (r r' : ρ) {k k' : κ} {f : ℕ → ℕ} (hid : T'.idOf? k' = (T.idOf? k).map f)
    (hk : key r = some k) (hk' : key r' = some k') :
    (T.insert? r = none ∧ T'.insert? r' = none) ∨
      ∃ U U', T.insert? r = some U ∧ T'.insert? r' = some U' ∧ U.rows = T.rows ++ [r] ∧
        U'.rows = T'.rows ++ [r'] := by
  cases hT : T.idOf? k with
  | some i =>
    rw [hT] at hid
    refine .inl ⟨Table.insert?_eq_none.mpr ?_, Table.insert?_eq_none.mpr ?_⟩
    · rw [Table.admits_iff_idOf? hk, hT]
      simp
    · rw [Table.admits_iff_idOf? hk', hid]
      simp
  | none =>
    rw [hT] at hid
    obtain ⟨U, hU, hrows⟩ := Table.insert?_of_idOf?_none hk hT
    obtain ⟨U', hU', hrows'⟩ := Table.insert?_of_idOf?_none hk' hid
    exact .inr ⟨U, U', hU, hU', hrows, hrows'⟩

/-- The rows a key names. -/
lemma find?_map {ρ κ : Type} [DecidableEq κ] {key : ρ → Option κ} {T T' : Table ρ key} {k k' : κ}
    {f : ℕ → ℕ} {g : ρ → ρ} (hid : T'.idOf? k' = (T.idOf? k).map f)
    (hrow : ∀ i r, T.get? i = some r → key r = some k → T'.get? (f i) = some (g r)) :
    T'.find? k' = (T.find? k).map fun x => (f x.1, g x.2) := by
  cases hk : T.idOf? k with
  | none => simp [Table.find?, hid, hk]
  | some i =>
    obtain ⟨r, hr, hkey⟩ := Table.idOf?_get? hk
    simp [Table.find?, hid, hk, hr, hrow i r hr hkey]

namespace Alike

lemma merchant (h : Alike A σ s s') (name : String) (domain : Option String) :
    (PaymentRepository.merchant s' name domain).1 = (PaymentRepository.merchant s name domain).1 ∧
      After A σ s s' (PaymentRepository.merchant s name domain).2
        (PaymentRepository.merchant s' name domain).2 := by
  simp only [PaymentRepository.merchant, h.merchants]
  split
  · exact ⟨rfl, .refl h⟩
  · split
    · exact ⟨rfl, .refl h⟩
    · exact ⟨rfl, h.of_rows (fun u => by cases u <;> rfl) (fun u => by cases u <;> rfl) rfl rfl
        rfl⟩

/-- The evidence row, under the next id. -/
lemma insertEvidence (h : Alike A σ s s') {i : Intake} (hi : i.request.accountId = A) :
    After A σ s s' (AgentPay.insertEvidence s i).2 (AgentPay.insertEvidence s' i).2 ∧
      (AgentPay.insertEvidence s' i).1 = σ .evidence (AgentPay.insertEvidence s i).1 ∧
      (AgentPay.insertEvidence s i).2.authorizationEvidence[(AgentPay.insertEvidence s i).1]? =
        some i.evidenceRow := by
  refine ⟨?_, (h.next .evidence rfl 0).symm, ?_⟩
  · exact h.append_rename (u := .evidence) (r := i.evidenceRow) rfl (s.writes_evidence _)
      (s'.writes_evidence _) (congrArg some hi) trivial
  · exact List.getElem?_concat_length

lemma insertReferences (h : Alike A σ s s') {i : Intake} (hi : i.request.accountId = A) :
    ∃ merchantId evidenceId t t', AgentPay.insertReferences s i = (merchantId, evidenceId, t) ∧
      AgentPay.insertReferences s' i = (merchantId, σ .evidence evidenceId, t') ∧
      After A σ s s' t t' ∧ t.authorizationEvidence[evidenceId]? = some i.evidenceRow := by
  cases hm : i.request.merchant with
  | none =>
    obtain ⟨hafter, hid, hrow⟩ := h.insertEvidence hi
    refine ⟨none, _, _, _, ?_, ?_, hafter, hrow⟩
    · simp only [AgentPay.insertReferences, hm]
    · simp only [AgentPay.insertReferences, hm, ← hid]
  | some merchant =>
    obtain ⟨hmerchant, hfirst⟩ := h.merchant merchant.name merchant.domain
    obtain ⟨hafter, hid, hrow⟩ := hfirst.alike.insertEvidence hi
    refine ⟨(PaymentRepository.merchant s merchant.name merchant.domain).1, _, _, _, ?_, ?_,
      hfirst.trans hafter, hrow⟩
    · simp only [AgentPay.insertReferences, hm]
    · simp only [AgentPay.insertReferences, hm, ← hid, ← hmerchant]

/-- The request row. -/
lemma createRequest (h : Alike A σ s s') (agentId : String) (amount : Decimal)
    (currency key : String) (fingerprint : Option String) (merchantId : Option MerchantId) :
    Twin A σ s s'
      (fun r r' t => r' = σ .requests r ∧ t.requestAccount r = some A ∧
        t.authorizationEvidence = s.authorizationEvidence)
      (PaymentRepository.createRequest s A agentId amount currency key fingerprint merchantId)
      (PaymentRepository.createRequest s' A agentId amount currency key fingerprint
        merchantId) := by
  simp only [PaymentRepository.createRequest]
  cases Amount.store amount with
  | error e => exact .raises e
  | ok stored =>
    by_cases hfits : fitsChar3 currency = true
    swap
    · simp only [hfits, bind, Except.bind]
      exact .raises _
    simp only [hfits, if_true]
    have hkey : (PaymentRepository.newRequest A agentId stored currency key fingerprint
      merchantId).key = some (A, key) := rfl
    rcases exists_insert? _ _ (h.idOf?_requests key) hkey hkey with
      ⟨hU, hU'⟩ | ⟨U, U', hU, hU', hrows, hrows'⟩
    · simp only [hU, hU', bind, Except.bind]
      exact .raises _
    · simp only [hU, hU', bind, Except.bind]
      refine .returns ?_ ⟨(h.next .requests rfl 0).symm, ?_, rfl⟩
      · exact h.append_rename (u := .requests) rfl (s.writes_requests hrows)
          (s'.writes_requests hrows') rfl trivial
      · have hget := Table.get?_of_rows_append hrows s.paymentRequests.nextId
        rw [if_pos rfl] at hget
        exact Option.map_eq_some_iff.mpr ⟨_, hget, rfl⟩

/-- The request and its evidence are linked. -/
lemma linkEvidence (h : Alike A σ s s') {r : RequestId} (hr : s.requestAccount r = some A)
    {e : EvidenceId} {row : AuthorizationEvidence} (he : s.authorizationEvidence[e]? = some row)
    (hrow : row.accountId = A) (digest : Option String) :
    After A σ s s' (AgentPay.linkEvidence s r e digest)
      (AgentPay.linkEvidence s' (σ .requests r) (σ .evidence e) digest) := by
  have hfirst := h.updateRequest hr
    (fun r => { r with authorizationEvidenceId := some e, authorizationContextHash := digest })
    (fun r => { r with
      authorizationEvidenceId := some (σ .evidence e), authorizationContextHash := digest })
    (fun _ => rfl) (fun _ => rfl) fun _ => rfl
  have hmem : (row, e) ∈ Db.part { s with
      paymentRequests := s.paymentRequests.update r (fun r => { r with
        authorizationEvidenceId := some e, authorizationContextHash := digest }) fun _ => rfl }
      A .evidence := Db.mem_part.mpr ⟨he, congrArg some hrow⟩
  exact hfirst.trans (hfirst.alike.modify (u := .evidence) rfl (by decide)
    (Db.writes_evidence _ (·.modify e fun x => { x with paymentRequestId := some r }))
    (Db.writes_evidence _ (·.modify (σ .evidence e) fun x =>
      { x with paymentRequestId := some (σ .requests r) }))
    hmem (fun _ => rfl) (fun _ => rfl) (fun _ _ => trivial) (fun _ _ => trivial) fun _ => rfl)

/-- The payment row. -/
lemma createPaymentRow (h : Alike A σ s s') {r : RequestId} (hr : s.requestAccount r = some A)
    (amount : Decimal) (currency : String) (status : PaymentStatus) :
    Twin A σ s s'
      (fun p p' t => p' = σ .payments p ∧ t.accountOf (.payment p) = some A ∧
        t.paymentRequests = s.paymentRequests ∧
        t.authorizationEvidence = s.authorizationEvidence)
      (PaymentRepository.createPayment s r amount currency status)
      (PaymentRepository.createPayment s' (σ .requests r) amount currency status) := by
  simp only [PaymentRepository.createPayment]
  cases Amount.store amount with
  | error e => exact .raises e
  | ok stored =>
    have hkey : (PaymentRepository.newPayment r stored currency status).key = some r := rfl
    have hkey' : (PaymentRepository.newPayment (σ .requests r) stored currency status).key =
      some (σ .requests r) := rfl
    rcases exists_insert? _ _ (h.idOf?_payments hr) hkey hkey' with
      ⟨hU, hU'⟩ | ⟨U, U', hU, hU', hrows, hrows'⟩
    · simp only [hU, hU', bind, Except.bind]
      exact .raises _
    · simp only [hU, hU', bind, Except.bind]
      refine .returns ?_ ⟨(h.next .payments rfl 0).symm, ?_, rfl, rfl⟩
      · exact h.append_rename (u := .payments) rfl (s.writes_payments hrows)
          (s'.writes_payments hrows') hr trivial
      · have hget := Table.get?_of_rows_append hrows s.payments.nextId
        rw [if_pos rfl] at hget
        exact Option.bind_eq_some_iff.mpr ⟨_, hget, hr⟩

/-! ### Policies and budgets -/

/-- Tables that requests do not insert into are the same, position by position. -/
lemma part_of_not_grown (h : Alike A σ s s') {u : TableName} (hu : u.Grown = false) :
    s'.part A u = s.part A u := by
  have hne : u ≠ .approvals := by
    rintro rfl
    cases hu
  rw [h.part u hne]
  conv_rhs => rw [← List.map_id (s.part A u)]
  apply List.map_congr_left
  rintro ⟨r, i⟩ _
  have hrename : u.rename σ r = r := by cases u <;> first | rfl | cases hu
  rw [TableName.renameEntry, hrename, h.fixed u hu]
  rfl

lemma activePolicies (h : Alike A σ s s') :
    ControlRepository.activePolicies s' A = ControlRepository.activePolicies s A := by
  let g (db : Db) (x : PolicyVersion × ℕ) : Option ControlRepository.ActivePolicy := do
    let policy ← db.policies[x.1.policyId]?
    if x.1.active && policy.active && policy.accountId = A then
      some ⟨x.1.policyId, x.2, x.1.version, x.1.rules, policy.updatedAt⟩
    else none
  have hpart : ∀ db : Db, ControlRepository.activePolicies db A =
      (db.part A .policyVersions).filterMap (g db) := by
    intro db
    refine filterMap_range_eq_part (g := g db) fun r _ hown i => ?_
    have hown : db.accountOf (.policy r.policyId) ≠ some A := of_decide_eq_false hown
    simp only [g]
    cases hp : db.policies[r.policyId]? with
    | none => rfl
    | some policy =>
      have hne : policy.accountId ≠ A := fun heq => hown (by simp [Db.accountOf, hp, heq])
      simp [hne]
  rw [hpart, hpart, h.part_of_not_grown (u := .policyVersions) rfl]
  apply List.filterMap_congr
  intro x hx
  obtain ⟨policy, hpolicy, hacc⟩ := Option.map_eq_some_iff.mp (Db.mem_part.mp hx).2
  have hmem : (policy, x.1.policyId) ∈ s.part A .policies :=
    Db.mem_part.mpr ⟨hpolicy, congrArg some hacc⟩
  rw [← h.part_of_not_grown (u := .policies) rfl] at hmem
  have hpolicy' : s'.policies[x.1.policyId]? = some policy := row hmem
  simp only [g, hpolicy, hpolicy']

lemma activePolicy (h : Alike A σ s s') (policyId : Option PolicyId) :
    ControlRepository.activePolicy s' A policyId = ControlRepository.activePolicy s A policyId := by
  cases policyId <;> simp only [ControlRepository.activePolicy, h.activePolicies]

/-- The version of an active policy is the account's. -/
lemma mem_activePolicies {x : ControlRepository.ActivePolicy}
    (hx : x ∈ ControlRepository.activePolicies s A) :
    ∃ version, (version, x.versionId) ∈ s.part A .policyVersions := by
  obtain ⟨i, -, hi⟩ := List.mem_filterMap.mp hx
  obtain ⟨version, hversion, hi⟩ := Option.bind_eq_some_iff.mp hi
  obtain ⟨policy, hpolicy, hi⟩ := Option.bind_eq_some_iff.mp hi
  split_ifs at hi with hcond
  obtain rfl := Option.some.inj hi
  have hacc : policy.accountId = A := by
    simp only [Bool.and_eq_true, decide_eq_true_eq] at hcond
    exact hcond.2
  refine ⟨version, Db.mem_part.mpr ⟨hversion, ?_⟩⟩
  exact Option.map_eq_some_iff.mpr ⟨policy, hpolicy, hacc⟩

lemma selectBudget (h : Alike A σ s s') (budgetId : Option BudgetId) (currency : String)
    (policyId : Option PolicyId) :
    ControlRepository.selectBudget s' A budgetId currency policyId =
      ControlRepository.selectBudget s A budgetId currency policyId := by
  let g (x : Budget × ℕ) : Option BudgetId :=
    if ControlRepository.compatibleBudget A currency policyId x.1 then some x.2 else none
  have hpart : ∀ db : Db, ((List.range db.budgets.length).filter fun id =>
      (db.budgets[id]?).any (ControlRepository.compatibleBudget A currency policyId)) =
        (db.part A .budgets).filterMap g := by
    intro db
    have hg : ∀ r ∈ db.budgets,
        decide (db.accountOf (TableName.budgets.owner r) = some A) = false →
          ∀ i, g (r, i) = none := by
      intro r _ hown i
      have hne : r.accountId ≠ A := fun heq =>
        of_decide_eq_false hown (congrArg some heq)
      simp [g, ControlRepository.compatibleBudget, hne]
    rw [Db.part, ← filterMap_range_eq_part (l := db.rows .budgets) hg, ← List.filterMap_eq_filter]
    apply List.filterMap_congr
    intro i _
    show Option.guard _ i = (db.budgets[i]?).bind fun r => g (r, i)
    cases hb : db.budgets[i]? with
    | none => simp [Option.guard, hb]
    | some b => simp [Option.guard, hb, g]
  simp only [ControlRepository.selectBudget, hpart, h.part_of_not_grown (u := .budgets) rfl]

/-! ### Preparing -/

lemma requestCurrency (h : Alike A σ s s') {r : RequestId} (hr : s.requestAccount r = some A) :
    BudgetRepository.requestCurrency s' (σ .requests r) =
      BudgetRepository.requestCurrency s r := by
  obtain ⟨request, hrequest, -, hrequest'⟩ := h.get?_request hr
  simp only [BudgetRepository.requestCurrency, hrequest, hrequest']
  rfl

/-- `reserve`, on a budget of the account. -/
lemma reserve (h : Alike A σ s s') {r : RequestId} (hr : s.requestAccount r = some A)
    {b : BudgetId} {row : Budget} (hb : s.budgets[b]? = some row) (hrow : row.accountId = A)
    (amount : Decimal) :
    Twin A σ s s'
      (fun id id' t => id' = id.map (σ .reservations) ∧ t.paymentRequests = s.paymentRequests ∧
        t.payments = s.payments)
      (BudgetRepository.reserve s b r amount)
      (BudgetRepository.reserve s' b (σ .requests r) amount) := by
  have hmem : (row, b) ∈ s.part A .budgets := Db.mem_part.mpr ⟨hb, congrArg some hrow⟩
  have hb' : s'.budgets[b]? = some row := by
    rw [← h.part_of_not_grown (u := .budgets) rfl] at hmem
    exact Alike.row hmem
  simp only [BudgetRepository.reserve, hb, hb', h.requestCurrency hr]
  by_cases href : row.refuses (BudgetRepository.requestCurrency s r) amount = true
  · simp only [href, if_true]
    exact .returns (.refl h) ⟨rfl, rfl, rfl⟩
  simp only [href]
  cases Amount.store amount with
  | error e => exact .raises e
  | ok stored =>
    have hkey : BudgetReservation.key ⟨b, r, stored, row.currency, .reserved⟩ = some (b, r) := rfl
    have hkey' : BudgetReservation.key ⟨b, σ .requests r, stored, row.currency, .reserved⟩ =
      some (b, σ .requests r) := rfl
    rcases exists_insert? _ _ (h.idOf?_reservations hr b) hkey hkey' with
      ⟨hU, hU'⟩ | ⟨U, U', hU, hU', hrows, hrows'⟩
    · simp only [hU, hU', bind, Except.bind]
      exact .raises _
    · simp only [hU, hU', bind, Except.bind]
      refine .returns ?_ ⟨congrArg some (h.next .reservations rfl 0).symm, rfl, rfl⟩
      have hfirst := h.append_rename (u := .reservations) rfl (s.writes_reservations hrows)
        (s'.writes_reservations hrows') hr trivial
      have hmodify := Db.writes_budgets { s with budgetReservations := U }
        (·.modify b (·.addReserved amount))
      have hmodify' := Db.writes_budgets { s' with budgetReservations := U' }
        (·.modify (σ .budgets b) (·.addReserved amount))
      have hnext := hfirst.alike.modify (u := .budgets) rfl (by decide) hmodify hmodify'
        (Db.mem_part.mpr ⟨hb, congrArg some hrow⟩) (fun _ => rfl) (fun _ => rfl)
        (fun _ _ => trivial) (fun _ _ => trivial) fun _ => rfl
      rw [h.fixed .budgets rfl b] at hnext
      exact hfirst.trans hnext

end Alike

/-- The evidence that a request is linked to is the account's. -/
def Db.Evidenced (db : Db) (account : String) (r : RequestId) : Prop :=
  ∃ request e row, db.paymentRequests.get? r = some request ∧
    request.authorizationEvidenceId = some e ∧ db.authorizationEvidence[e]? = some row ∧
    row.accountId = account

namespace Db.Evidenced

variable {db db' : Db} {r : RequestId}

lemma congr (h : db.Evidenced A r) (hrequests : db'.paymentRequests = db.paymentRequests)
    (hevidence : db'.authorizationEvidence = db.authorizationEvidence) : db'.Evidenced A r := by
  rw [Evidenced, hrequests, hevidence]
  exact h

/-- A rewrite of the request that leaves its evidence. -/
lemma updateRequest (h : db.Evidenced A r) {f : PaymentRequest → PaymentRequest}
    (hf : ∀ r, (f r).key = r.key)
    (hevidence : ∀ r, (f r).authorizationEvidenceId = r.authorizationEvidenceId) :
    Db.Evidenced { db with paymentRequests := db.paymentRequests.update r f hf } A r := by
  obtain ⟨request, e, row, hrequest, he, hrow, hacc⟩ := h
  refine ⟨f request, e, row, ?_, (hevidence request).trans he, hrow, hacc⟩
  rw [Table.get?_update_self, hrequest]
  rfl

end Db.Evidenced

namespace Alike

/-- `prepare`, for a payment of the account. -/
lemma prepare (h : Alike A σ s s') {p : PaymentId} (hp : s.accountOf (.payment p) = some A)
    {r : RequestId} (hr : s.requestAccount r = some A) (hevidence : s.Evidenced A r) {b : BudgetId}
    {row : Budget} (hb : s.budgets[b]? = some row) (hrow : row.accountId = A) (amount : Decimal)
    (currency : String) :
    Twin A σ s s' (fun id id' _ => id' = σ .reservations id)
      (PaymentOrchestrator.prepare s p r b amount currency)
      (PaymentOrchestrator.prepare s' (σ .payments p) (σ .requests r) b amount currency) := by
  obtain ⟨payment, hpayment, hacc, hpayment'⟩ := h.get?_payment hp
  obtain ⟨request, hrequest, -, hrequest'⟩ := h.get?_request hr
  obtain ⟨request₀, e, evidence, hrequest₀, he, hev, hevAcc⟩ := hevidence
  obtain rfl := Option.some.inj (hrequest.symm.trans hrequest₀)
  have hev' : s'.authorizationEvidence[σ .evidence e]? =
      some (TableName.rename σ .evidence evidence) := by
    have hmem : (evidence, e) ∈ s.part A .evidence :=
      Db.mem_part.mpr ⟨hev, congrArg some hevAcc⟩
    exact Alike.row (h.mem (by decide) hmem)
  have hbound : (TableName.rename σ .payments payment).paymentRequestId = σ .requests r ↔
      payment.paymentRequestId = r := h.request_inj hacc hr
  have hverified : ((TableName.rename σ .requests request).authorizationEvidenceId.bind
      (s'.authorizationEvidence[·]?)).map (·.verificationStatus) =
      (request.authorizationEvidenceId.bind (s.authorizationEvidence[·]?)).map
        (·.verificationStatus) := by
    simp only [TableName.rename, he, Option.map_some, Option.bind_some, hev, hev']
  simp only [PaymentOrchestrator.prepare, hpayment, hpayment', hrequest, hrequest', ne_eq, hbound,
    hverified]
  rw [show (TableName.rename σ .requests request).amount = request.amount from rfl,
    show (TableName.rename σ .requests request).currency = request.currency from rfl,
    show (TableName.rename σ .payments payment).status = payment.status from rfl]
  split_ifs
  · exact .raises _
  · exact .raises _
  · refine (h.reserve hr hb hrow amount).bind fun id id' t t' hafter hid => ?_
    obtain ⟨rfl, hrequests, hpayments⟩ := hid
    have hr' := hafter.requestAccount h.refs hr
    have hp' := hafter.paymentAccount h.refs hp
    cases id with
    | none => exact .raises _
    | some id =>
      have hlink := hafter.alike.linkReservation hr' id
      have hstatus := hlink.alike.updateStatus (hlink.paymentAccount hafter.alike.refs hp')
        .processing none
      refine .returns ?_ rfl
      exact (hlink.trans hstatus).trans (hstatus.alike.enqueue _ _)
  · exact .raises _
  · exact .raises _

end Alike

/-! ### Deciding -/

def CreateDetail.rename (σ : Renaming) : CreateDetail → CreateDetail
  | asked approvalId => asked (σ .approvals approvalId)
  | detail           => detail

/-- An outcome with the ids of its new rows renamed. -/
def CreateOutcome.rename (σ : Renaming) : CreateOutcome → CreateOutcome
  | returned p status detail => returned (σ .payments p) status (detail.rename σ)
  | deferred status detail   => deferred status detail

namespace Alike

lemma createApproval (h : Alike A σ s s') {r : RequestId} (hr : s.requestAccount r = some A)
    (env : Env) (now : Time) (reason : Option String) :
    Twin A σ s s' (fun a a' _ => a' = σ .approvals a)
      (ControlRepository.createApproval env now s r reason)
      (ControlRepository.createApproval env now s' (σ .requests r) reason) := by
  obtain ⟨request, hrequest, -, hrequest'⟩ := h.get?_request hr
  simp only [ControlRepository.createApproval, hrequest, hrequest']
  refine .returns ?_ (h.next .approvals rfl 0).symm
  exact h.append (u := .approvals) rfl (s.writes_approvals _) (s'.writes_approvals _) hr
    (h.accountOf (o := .request r) hr) trivial trivial fun hne => absurd rfl hne

lemma failDeferred (h : Alike A σ s s') {p : PaymentId} (hp : s.accountOf (.payment p) = some A)
    (reason reason' : FailureReason) (status : ℕ) (detail : String) :
    (AgentPay.failDeferred s' (σ .payments p) reason' status detail).1 =
        (AgentPay.failDeferred s p reason status detail).1.rename σ ∧
      After A σ s s' (AgentPay.failDeferred s p reason status detail).2
        (AgentPay.failDeferred s' (σ .payments p) reason' status detail).2 := by
  have hstatus := h.updateStatus hp .failed none
  exact ⟨rfl, hstatus.trans (hstatus.alike.enqueue _ _)⟩

/-- `evaluate_policy` of a request of the account. -/
lemma evaluatePolicy (h : Alike A σ s s') {q : ControlRepository.PolicyQuestion}
    (hq : q.accountId = A) (hr : s.requestAccount q.paymentRequestId = some A) :
    Twin A σ s s'
      (fun d d' t => d' = d ∧ t.payments = s.payments ∧ t.budgets = s.budgets ∧
        t.policyVersions = s.policyVersions ∧
        (s.Evidenced A q.paymentRequestId → t.Evidenced A q.paymentRequestId) ∧
        ∀ v ∈ d.2.1, ∃ version, (version, v) ∈ s.part A .policyVersions)
      (ControlRepository.evaluatePolicy s q)
      (ControlRepository.evaluatePolicy s'
        { q with paymentRequestId := σ .requests q.paymentRequestId }) := by
  have hactive : ControlRepository.activePolicy s' q.accountId q.policyId =
      ControlRepository.activePolicy s q.accountId q.policyId := by
    rw [hq]
    exact h.activePolicy q.policyId
  simp only [ControlRepository.evaluatePolicy, hactive]
  cases hrow : ControlRepository.activePolicy s q.accountId q.policyId with
  | none => exact .returns (.refl h) ⟨rfl, rfl, rfl, rfl, id, by simp⟩
  | some row =>
    cases hrules : row.rules with
    | none =>
      simp only [hrules]
      exact .raises _
    | some policy =>
      simp only [hrules]
      refine .returns (h.updateRequest hr _ _ _ _ fun _ => rfl) ⟨rfl, rfl, rfl, rfl, ?_, ?_⟩
      · exact fun hevidence => hevidence.updateRequest _ fun _ => rfl
      · rintro v hv
        obtain rfl := Option.some.inj hv
        have hmem := ControlRepository.mem_of_activePolicy hrow
        rw [hq] at hmem
        exact mem_activePolicies hmem

lemma policyIdOf (h : Alike A σ s s') {versionId : Option PolicyVersionId}
    (hv : ∀ v ∈ versionId, ∃ version, (version, v) ∈ s.part A .policyVersions) :
    AgentPay.policyIdOf s' versionId = AgentPay.policyIdOf s versionId := by
  cases versionId with
  | none => rfl
  | some v =>
    obtain ⟨version, hmem⟩ := hv v rfl
    have hrow : s.policyVersions[v]? = some version := row hmem
    rw [← h.part_of_not_grown (u := .policyVersions) rfl] at hmem
    have hrow' : s'.policyVersions[v]? = some version := row hmem
    simp only [AgentPay.policyIdOf, Option.bind_some, hrow, hrow']

/-- A selected budget is one of the account's. -/
lemma selectBudget_row {budgetId : Option BudgetId} {currency : String} {policyId : Option PolicyId}
    {b : BudgetId} (h : ControlRepository.selectBudget s A budgetId currency policyId = some b) :
    ∃ row, s.budgets[b]? = some row ∧ row.accountId = A := by
  obtain ⟨row, hrow, hcompatible⟩ := ControlRepository.selectBudget_eq_some h
  simp only [ControlRepository.compatibleBudget, Bool.and_eq_true, decide_eq_true_eq] at hcompatible
  exact ⟨row, hrow, hcompatible.1.1.1⟩

/-- The rest of `create_payment` once the payment is there. -/
lemma decidePayment (h : Alike A σ s s') {i : Intake} (hi : i.request.accountId = A)
    {r : RequestId} (hr : s.requestAccount r = some A) (hevidence : s.Evidenced A r)
    {p : PaymentId} (hp : s.accountOf (.payment p) = some A) (env : Env) (now : Time) :
    Twin A σ s s' (fun o o' _ => o' = o.rename σ) (AgentPay.decidePayment env now s i r p)
      (AgentPay.decidePayment env now s' i (σ .requests r) (σ .payments p)) := by
  have hquestion : ∀ r, i.question r =
      { accountId := i.request.accountId, policyId := i.request.policyId, paymentRequestId := r,
        amount := i.request.amount.decimal, currency := i.request.currency,
        merchantDomain := (i.request.merchant.bind (·.domain)).getD "",
        category := i.request.merchant.bind (·.category) } := fun _ => rfl
  simp only [AgentPay.decidePayment]
  rw [← hquestion, ← hquestion]
  rcases (h.evaluatePolicy (q := i.question r) hi hr).elim with
    ⟨e, he, he'⟩ | ⟨d, _, t, t', hd, hd', hafter, rfl, -, -, hversions, hkeep, hv⟩
  · have he' : ControlRepository.evaluatePolicy s' (i.question (σ .requests r)) = .error e := he'
    rw [he, he']
    cases e with
    | lookupError message => exact .returns (.refl h) rfl
    | _ => exact .raises _
  rename_i d
  have hd' : ControlRepository.evaluatePolicy s' (i.question (σ .requests r)) = .ok (d, t') := hd'
  rw [hd, hd']
  obtain ⟨decision, versionId, policyEvidence⟩ := d
  refine Twin.after hafter ?_
  have hrt := hafter.requestAccount h.refs hr
  have hpt := hafter.paymentAccount h.refs hp
  have ht := hafter.alike
  simp only
  have hpolicyId : AgentPay.policyIdOf t' versionId = AgentPay.policyIdOf t versionId := by
    refine ht.policyIdOf fun v hmem => ?_
    obtain ⟨version, hversion⟩ := hv v hmem
    rw [← hafter.confined.grows.part_of_eq (u := .policyVersions) h.refs A hversions] at hversion
    exact ⟨version, hversion⟩
  by_cases hdeny : decision = .deny
  · simp only [hdeny, if_true]
    obtain ⟨hout, hfail⟩ := ht.failDeferred hpt (.policyDenied versionId) (.policyDenied versionId)
      403 "payment denied by policy"
    exact .returns (a := (_, _).1) hfail hout
  simp only [hdeny, if_false]
  rw [hpolicyId, hi, ht.selectBudget]
  cases hb : ControlRepository.selectBudget t A i.request.budgetId i.request.currency
    (AgentPay.policyIdOf t versionId) with
  | none =>
    obtain ⟨hout, hfail⟩ := ht.failDeferred hpt (.budgetUnavailable versionId)
      (.budgetUnavailable versionId) 409 "exactly one active compatible budget is required"
    exact .returns (a := (_, _).1) hfail hout
  | some b =>
    obtain ⟨row, hrow, hrowAcc⟩ := selectBudget_row hb
    have hbind := ht.bindBudget hrt b
    have hru := hbind.requestAccount ht.refs hrt
    have hpu := hbind.paymentAccount ht.refs hpt
    refine Twin.after hbind ?_
    by_cases happroval : decision = .requireApproval
    · simp only [happroval, if_true]
      refine (hbind.alike.createApproval hru env now _).bind fun a a' u u' hu ha => ?_
      subst ha
      have hstatus := hu.alike.updateStatus (hu.paymentAccount hbind.alike.refs hpu)
        .approvalRequired none
      exact .returns (hstatus.trans (hstatus.alike.enqueue _ _)) rfl
    · simp only [happroval, if_false]
      have hevidenced := (hkeep hevidence).updateRequest
        (f := fun r => { r with budgetId := some b }) (fun _ => rfl) fun _ => rfl
      have hb' : (ControlRepository.bindBudget t r b).budgets[b]? = some row := hrow
      refine (hbind.alike.prepare hpu hru hevidenced hb' hrowAcc i.request.amount.decimal
        i.request.currency).bind fun a a' u u' hu _ => ?_
      simp only
      by_cases hnotify : decision = .allowNotify
      · simp only [hnotify, if_true]
        exact .returns (hu.alike.enqueue _ _) rfl
      · simp only [hnotify, if_false]
        exact .returns (.refl hu.alike) rfl

/-! ### Accepting -/

/-- A request by its idempotency key. -/
lemma findByIdempotency (h : Alike A σ s s') (k : String) :
    PaymentRepository.findByIdempotency s' A k =
      (PaymentRepository.findByIdempotency s A k).map fun x =>
        (σ .requests x.1, TableName.rename σ .requests x.2) := by
  refine find?_map (h.idOf?_requests k) fun i r hr hk => ?_
  have hacc : r.accountId = A := (Prod.mk.inj (Option.some.inj hk)).1
  obtain ⟨r', hr', -, hrow⟩ := h.get?_request (Option.map_eq_some_iff.mpr ⟨r, hr, hacc⟩)
  rw [hrow, Option.some.inj (hr'.symm.trans hr)]

/-- The payment of a request. -/
lemma find?_payments (h : Alike A σ s s') {r : RequestId} (hr : s.requestAccount r = some A) :
    s'.payments.find? (σ .requests r) =
      (s.payments.find? r).map fun x => (σ .payments x.1, TableName.rename σ .payments x.2) := by
  refine find?_map (h.idOf?_payments hr) fun i p hp hk => ?_
  obtain rfl := Option.some.inj hk
  obtain ⟨p', hp', -, hrow⟩ := h.get?_payment (Option.bind_eq_some_iff.mpr ⟨p, hp, hr⟩)
  rw [hrow, Option.some.inj (hp'.symm.trans hp)]

lemma replay (h : Alike A σ s s') {k : String} {r : RequestId} {existing : PaymentRequest}
    (hfound : PaymentRepository.findByIdempotency s A k = some (r, existing))
    (fingerprint : String) :
    AgentPay.replay s' fingerprint (σ .requests r) (TableName.rename σ .requests existing) =
      (AgentPay.replay s fingerprint r existing).map (CreateOutcome.rename σ) := by
  obtain ⟨hrow, hkey⟩ := Table.find?_eq_some.mp hfound
  have hacc : existing.accountId = A := (Prod.mk.inj (Option.some.inj hkey)).1
  have hr : s.requestAccount r = some A := Option.map_eq_some_iff.mpr ⟨existing, hrow, hacc⟩
  simp only [AgentPay.replay, h.find?_payments hr]
  rw [show (TableName.rename σ .requests existing).requestFingerprint =
    existing.requestFingerprint from rfl]
  split_ifs
  · rfl
  · cases s.payments.find? r <;> rfl

/-- The transaction of `create_payment` for a request of the account. -/
lemma acceptPayment (h : Alike A σ s s') {i : Intake} (hi : i.request.accountId = A) (env : Env)
    (now : Time) :
    Twin A σ s s' (fun o o' _ => o' = o.rename σ) (AgentPay.acceptPayment env now s i)
      (AgentPay.acceptPayment env now s' i) := by
  obtain ⟨merchantId, e, t, t', hleft, hright, hafter, hrow⟩ := h.insertReferences hi
  simp only [AgentPay.acceptPayment, hleft, hright, hi]
  refine Twin.after hafter ?_
  have ht := hafter.alike
  rcases (ht.createRequest i.request.agentId i.request.amount.decimal i.request.currency
    i.idempotencyKey (some i.fingerprint) merchantId).elim with
    ⟨error, he, he'⟩ | ⟨r, _, u, u', hu, hu', hnext, rfl, hr, hevidence⟩
  · rw [he, he']
    cases error with
    | uniqueViolation =>
      simp only [ht.findByIdempotency]
      cases hfound : PaymentRepository.findByIdempotency t A i.idempotencyKey with
      | none => exact .raises _
      | some x =>
        obtain ⟨r, existing⟩ := x
        simp only [Option.map_some, ht.replay hfound]
        cases AgentPay.replay t i.fingerprint r existing with
        | error e => exact .raises e
        | ok o => exact .returns (.refl ht) rfl
    | _ => exact .raises _
  rw [hu, hu']
  refine Twin.after hnext ?_
  have hrowAcc : i.evidenceRow.accountId = A := hi
  rw [← hevidence] at hrow
  have hlink := hnext.alike.linkEvidence hr hrow hrowAcc i.context.digest
  have hlinkr := hlink.requestAccount hnext.alike.refs hr
  have hevidenced : (AgentPay.linkEvidence u r e i.context.digest).Evidenced A r := by
    obtain ⟨request, hrequest, -⟩ := mem_request hr
    refine ⟨{ request with authorizationEvidenceId := some e,
                           authorizationContextHash := i.context.digest }, e,
      { i.evidenceRow with paymentRequestId := some r }, ?_, rfl, ?_, hrowAcc⟩
    · rw [AgentPay.linkEvidence, Table.get?_update_self, hrequest]
      rfl
    · rw [AgentPay.linkEvidence, List.getElem?_modify_eq, hrow]
      rfl
  refine Twin.after hlink ?_
  refine (hlink.alike.createPaymentRow hlinkr i.request.amount.decimal i.request.currency
    .policyCheck).bind fun p p' v v' hv hp => ?_
  obtain ⟨rfl, hp, hrequests, hevidences⟩ := hp
  exact hv.alike.decidePayment hi (hv.requestAccount hlink.alike.refs hlinkr)
    (hevidenced.congr hrequests hevidences) hp env now

end Alike

/-! ### Opening -/

/-- The bearer token, where it is one at all, is of a principal of the account. -/
def ActsFor (env : Env) (account : String) (authorization : Option String) : Prop :=
  ∀ token ∈ bearerToken authorization, ∀ principal, env.resolveBearer token = .ok principal →
    principal.accountId = account

lemma requireAgent_ok {principal : Principal} {agentId accountId : String}
    (h : requireAgent principal agentId accountId = .ok ()) : principal.accountId = accountId := by
  obtain ⟨⟨⟩, hsame, -⟩ := Except.bind_eq_ok.mp h
  rw [require_eq_ok, Bool.and_eq_true, decide_eq_true_eq, decide_eq_true_eq] at hsame
  exact hsame.2

/-- A call that gets past the first checks names the account. -/
lemma checkCall_account {env : Env} {call : CreateCall} {key : String} {evidence : EvidenceBody}
    (hacts : ActsFor env A call.authorization) (h : checkCall env call = .ok (key, evidence)) :
    call.request.accountId = A := by
  simp only [checkCall] at h
  split at h
  · cases h
  split_ifs at h
  obtain ⟨⟨⟩, hauth, -⟩ := Except.bind_eq_ok.mp h
  simp only [authenticateAgent] at hauth
  split at hauth
  · cases hauth
  rename_i token htoken
  cases hresolve : env.resolveBearer token with
  | error e =>
    rw [hresolve] at hauth
    cases e <;> cases hauth
  | ok principal =>
    rw [hresolve] at hauth
    have hagent : requireAgent principal call.request.agentId call.request.accountId = .ok () := by
      cases hagent : requireAgent principal call.request.agentId call.request.accountId with
      | ok u => rfl
      | error e =>
        simp only [bind, Except.bind, hagent] at hauth
        cases e <;> cases hauth
    rw [← requireAgent_ok hagent]
    exact hacts token htoken principal hresolve

namespace Alike

/-- `create_payment` for the account. -/
lemma createPayment (h : Alike A σ s s') {env : Env} {call : CreateCall}
    (hacts : ActsFor env A call.authorization) (now : Time) :
    Twin A σ s s' (fun o o' _ => o' = o.rename σ) (AgentPay.createPayment env now s call)
      (AgentPay.createPayment env now s' call) := by
  simp only [AgentPay.createPayment, openPayment]
  cases hcheck : checkCall env call with
  | error e => exact .raises e
  | ok x =>
    obtain ⟨key, evidence⟩ := x
    have hi := checkCall_account hacts hcheck
    simp only [hi, h.findByIdempotency]
    cases hfound : PaymentRepository.findByIdempotency s A key with
    | some x =>
      obtain ⟨r, existing⟩ := x
      simp only [Option.map_some, h.replay hfound]
      cases AgentPay.replay s (requestFingerprint env call.request) r existing with
      | error e => exact .raises e
      | ok o => exact .returns (.refl h) rfl
    | none =>
      simp only [Option.map_none]
      cases authorize env now call.request evidence with
      | error e => exact .raises e
      | ok x => exact h.acceptPayment hi env now

end Alike

end AgentPay
