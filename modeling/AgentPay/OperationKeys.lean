import AgentPay.OperationRows

/-!
# What a key is bound to

However the statements of any number of transactions interleave, a key has one operation, bound to
the payment and the type of the call that created it. Every further call under the key returns that
operation or raises and changes nothing, and the operation a payment points to is one of its own.
-/

namespace AgentPay

open Support RowLock

variable {κ ο : Type}

namespace OperationRows

/-! ### What a statement does -/

section

variable [DecidableEq κ]

/-- Everything a statement can do. -/
inductive Does (s : OperationRows κ ο) : OperationStatement κ ο → OperationRows κ ο → Prop
  | waits (a : OperationStatement κ ο) : Does s a s
  | conflicts {t : TransactionNo} {call : OperationCall κ ο} {id : OperationId}
      (hcall : s.calls t = .idle) (hfind : s.find? t call.idempotencyKey = some id) :
      Does s (.insert t call) (s.setCall t (.conflicted call))
  | inserts {t : TransactionNo} {call : OperationCall κ ο} (hcall : s.calls t = .idle)
      (hawaits : s.awaits t call.idempotencyKey = false)
      (hfind : s.find? t call.idempotencyKey = none) :
      Does s (.insert t call)
        ((s.insertOperation t call).setCall t (.holding s.operations.length call))
  | fails {t : TransactionNo} {call : OperationCall κ ο} (hcall : s.calls t = .idle)
      (hfind : s.find? t call.idempotencyKey = none) :
      Does s (.insert t call) ((s.finish t call (.error .foreignKeyViolation)).setCall t .aborted)
  | loses {t : TransactionNo} {call : OperationCall κ ο} (hcall : s.calls t = .conflicted call)
      (hfind : s.find? t call.idempotencyKey = none) :
      Does s (.fetch t) ((s.finish t call (.error raceLost)).setCall t .idle)
  | refuses {t : TransactionNo} {call o : OperationCall κ ο} {id : OperationId}
      (hcall : s.calls t = .conflicted call) (hunlocked : s.Unlocked t id)
      (hseen : s.seen t id = some o) (hkey : o.idempotencyKey = call.idempotencyKey)
      (hdiffers : o ≠ call) :
      Does s (.fetch t)
        (((s.lockOperation t id).finish t call (.error keyConflict)).setCall t .idle)
  | finds {t : TransactionNo} {call : OperationCall κ ο} {id : OperationId}
      (hcall : s.calls t = .conflicted call) (hunlocked : s.Unlocked t id)
      (hseen : s.seen t id = some call) :
      Does s (.fetch t) ((s.lockOperation t id).setCall t (.holding id call))
  | points {t : TransactionNo} {call : OperationCall κ ο} {id : OperationId}
      (hcall : s.calls t = .holding id call) (hunlocked : s.PaymentUnlocked t call.paymentId) :
      Does s (.point t)
        (((s.writePayment t call.paymentId id).finish t call (.ok id)).setCall t .idle)
  | commits {t : TransactionNo} (hcall : s.calls t = .idle) :
      Does s (.commit t)
        { s with
          operations := s.operations.map (Cell.commit t)
          payments := s.payments.map (Cell.commit t) }
  | rollsBack (t : TransactionNo) :
      Does s (.rollback t)
        { s with
          operations := s.operations.map (Cell.rollback t)
          payments := s.payments.map (Cell.rollback t)
          calls := Function.update s.calls t .idle }

lemma insert_does {s : OperationRows κ ο} {t : TransactionNo} {call : OperationCall κ ο}
    (hcall : s.calls t = .idle) : s.Does (.insert t call) (s.insert t call) := by
  rw [insert]
  split_ifs with hawaits hfind hpayment
  · exact .waits _
  · obtain ⟨id, hid⟩ := Option.isSome_iff_exists.mp hfind
    exact .conflicts hcall hid
  · exact .inserts hcall (Bool.eq_false_iff.mpr hawaits) (Option.not_isSome_iff_eq_none.mp hfind)
  · exact .fails hcall (Option.not_isSome_iff_eq_none.mp hfind)

lemma fetch_does [DecidableEq ο] {s : OperationRows κ ο} {t : TransactionNo}
    {call : OperationCall κ ο} (hcall : s.calls t = .conflicted call) :
    s.Does (.fetch t) (s.fetch t call) := by
  cases hfind : s.find? t call.idempotencyKey with
  | none    =>
    simp only [fetch, hfind]
    exact .loses hcall hfind
  | some id =>
    obtain ⟨o, hseen, hkey⟩ := find?_seen hfind
    rw [fetch_of_find? hfind hseen]
    split_ifs with hunlocked hdiffers
    · refine .refuses hcall hunlocked hseen hkey ?_
      rintro rfl
      simp at hdiffers
    · rw [not_or, not_not, not_not] at hdiffers
      have hsame : o = call := by
        cases o
        cases call
        simp_all
      exact .finds hcall hunlocked (hsame ▸ hseen)
    · exact .waits _

theorem step_does [DecidableEq ο] (s : OperationRows κ ο) (a : OperationStatement κ ο) :
    s.Does a (s.step a) := by
  cases a with
  | insert t call =>
    simp only [step]
    split
    · exact insert_does ‹_›
    · exact .waits _
  | fetch t =>
    simp only [step]
    split
    · exact fetch_does ‹_›
    · exact .waits _
  | point t =>
    simp only [step]
    split
    · rename_i id call hcall
      rw [point]
      split_ifs with hunlocked
      · exact .points hcall hunlocked
      · exact .waits _
    · exact .waits _
  | commit t =>
    simp only [step]
    split
    · exact .commits ‹_›
    · exact .waits _
  | rollback t => exact .rollsBack t

end

/-! ### The operations -/

/-- Every row is inserted once, and rows of one key are one row. -/
structure Keyed (rows : List (Cell TransactionNo (Option (OperationCall κ ο)))) : Prop where
  once : ∀ c ∈ rows, c.Once
  distinct : ∀ (i j : OperationId) c d, rows[i]? = some c → rows[j]? = some d → ∀ o o',
    c.Carries o → d.Carries o' → o.idempotencyKey = o'.idempotencyKey → i = j

namespace Keyed

variable {rows : List (Cell TransactionNo (Option (OperationCall κ ο)))}

/-- Rows that carry no more than the rows of before. -/
lemma map {f : Cell TransactionNo (Option (OperationCall κ ο)) →
      Cell TransactionNo (Option (OperationCall κ ο))} (h : Keyed rows)
    (honce : ∀ c : Cell TransactionNo (Option (OperationCall κ ο)), c.Once → (f c).Once)
    (hcarries : ∀ c o, (f c).Carries o → c.Carries o) : Keyed (rows.map f) where
  once c hc := by
    obtain ⟨c₀, hc₀, rfl⟩ := List.mem_map.mp hc
    exact honce c₀ (h.once c₀ hc₀)
  distinct i j c d hc hd o o' ho ho' hkey := by
    rw [List.getElem?_map] at hc hd
    obtain ⟨c₀, hc₀, rfl⟩ := Option.map_eq_some_iff.mp hc
    obtain ⟨d₀, hd₀, rfl⟩ := Option.map_eq_some_iff.mp hd
    exact h.distinct i j c₀ d₀ hc₀ hd₀ o o' (hcarries c₀ o ho) (hcarries d₀ o' ho') hkey

lemma lock (h : Keyed rows) {t : TransactionNo} {id : OperationId} {o : OperationCall κ ο}
    (hread : ∀ c, rows[id]? = some c → c.read t = some o) : Keyed (rows.modify id (·.lock t)) where
  once c hc := by
    obtain ⟨j, hj⟩ := List.getElem?_of_mem hc
    obtain ⟨c₀, hc₀, ⟨rfl, rfl⟩ | ⟨-, rfl⟩⟩ := getElem?_of_modify hj
    · exact (h.once c₀ (List.mem_of_getElem? hc₀)).lock (hread c₀ hc₀)
    · exact h.once c (List.mem_of_getElem? hc₀)
  distinct i j c d hc hd o₁ o₂ ho₁ ho₂ hkey := by
    have hback {k : OperationId} {c : Cell TransactionNo (Option (OperationCall κ ο))}
        {o : OperationCall κ ο} (hc : (rows.modify id (·.lock t))[k]? = some c)
        (ho : c.Carries o) : ∃ c₀, rows[k]? = some c₀ ∧ c₀.Carries o := by
      obtain ⟨c₀, hc₀, ⟨-, rfl⟩ | ⟨-, rfl⟩⟩ := getElem?_of_modify hc
      · exact ⟨c₀, hc₀, Cell.carries_of_lock ho⟩
      · exact ⟨c, hc₀, ho⟩
    obtain ⟨c₀, hc₀, hcarries⟩ := hback hc ho₁
    obtain ⟨d₀, hd₀, hcarries'⟩ := hback hd ho₂
    exact h.distinct i j c₀ d₀ hc₀ hd₀ o₁ o₂ hcarries hcarries' hkey

/-- A new row under a key that no row carries. -/
lemma append (h : Keyed rows) {t : TransactionNo} {call : OperationCall κ ο}
    (hfree : ∀ c ∈ rows, ∀ o, c.Carries o → o.idempotencyKey ≠ call.idempotencyKey) :
    Keyed (rows ++ [⟨none, some (t, some call)⟩]) where
  once c hc := by
    obtain hold | hnew := List.mem_append.mp hc
    · exact h.once c hold
    · obtain rfl := List.mem_singleton.mp hnew
      exact Cell.once_inserted t call
  distinct i j c d hc hd o o' ho ho' hkey := by
    have hcases {k : OperationId} {c : Cell TransactionNo (Option (OperationCall κ ο))}
        {o : OperationCall κ ο} (hc : (rows ++ [⟨none, some (t, some call)⟩])[k]? = some c)
        (ho : c.Carries o) : rows[k]? = some c ∨ k = rows.length ∧ o = call := by
      by_cases hk : k < rows.length
      · rw [List.getElem?_append_left hk] at hc
        exact .inl hc
      · obtain ⟨hlt, -⟩ := List.getElem?_eq_some_iff.mp hc
        rw [List.length_append, List.length_singleton] at hlt
        have hlast : k = rows.length := Nat.le_antisymm (Nat.lt_succ_iff.mp hlt) (not_lt.mp hk)
        subst hlast
        rw [List.getElem?_concat_length] at hc
        obtain rfl := Option.some.inj hc
        exact .inr ⟨rfl, (Cell.once_inserted t call).single o call ho (.inr ⟨t, rfl⟩)⟩
    obtain hc' | ⟨rfl, rfl⟩ := hcases hc ho
    · obtain hd' | ⟨rfl, rfl⟩ := hcases hd ho'
      · exact h.distinct i j c d hc' hd' o o' ho ho' hkey
      · exact absurd hkey (hfree c (List.mem_of_getElem? hc') o ho)
    · obtain hd' | ⟨rfl, rfl⟩ := hcases hd ho'
      · exact absurd hkey.symm (hfree d (List.mem_of_getElem? hd') o' ho')
      · rfl

end Keyed

/-! ### What a transaction goes on seeing -/

variable {s s' : OperationRows κ ο} {t u : TransactionNo} {i j : OperationId}
  {o o' call : OperationCall κ ο}

lemma operation_eq_some :
    s.operation i = some o ↔ ∃ c, s.operations[i]? = some c ∧ c.committed = some o :=
  Option.bind_eq_some_iff

/-- What is committed, every transaction sees. -/
lemma Keyed.seen_of_operation (h : Keyed s.operations) (ho : s.operation i = some o)
    (t : TransactionNo) : s.seen t i = some o := by
  obtain ⟨c, hc, hcommitted⟩ := operation_eq_some.mp ho
  have hread := (h.once c (List.mem_of_getElem? hc)).read_of_committed hcommitted t
  exact seen_eq_some.mpr ⟨c, hc, hread⟩

/-- Whatever any two transactions see under a key is one row. -/
lemma Keyed.seen_unique (h : Keyed s.operations) (ho : s.seen t i = some o)
    (ho' : s.seen u j = some o') (hkey : o.idempotencyKey = o'.idempotencyKey) :
    i = j ∧ o = o' := by
  obtain ⟨c, hc, hread⟩ := seen_eq_some.mp ho
  obtain ⟨d, hd, hread'⟩ := seen_eq_some.mp ho'
  have hcarries := Cell.carries_of_read hread
  have hcarries' := Cell.carries_of_read hread'
  obtain rfl := h.distinct i j c d hc hd o o' hcarries hcarries' hkey
  obtain rfl : c = d := Option.some.inj (hc.symm.trans hd)
  exact ⟨rfl, (h.once c (List.mem_of_getElem? hc)).single o o' hcarries hcarries'⟩

lemma seen_insertOperation (ho : s.seen u i = some o) :
    (s.insertOperation t call).seen u i = some o := by
  obtain ⟨c, hc, hread⟩ := seen_eq_some.mp ho
  refine seen_eq_some.mpr ⟨c, ?_, hread⟩
  rw [insertOperation, List.getElem?_append_left (List.getElem?_eq_some_iff.mp hc).1]
  exact hc

lemma seen_insertOperation_self :
    (s.insertOperation t call).seen t s.operations.length = some call := by
  simp [seen, insertOperation, Cell.read]

lemma seen_lockOperation (h : s.Unlocked t i) (u : TransactionNo) (j : OperationId) :
    (s.lockOperation t i).seen u j = s.seen u j := by
  simp only [seen, lockOperation]
  by_cases hij : i = j
  · subst hij
    cases hc : s.operations[i]? with
    | none   => simp [hc]
    | some c => simp [hc, Cell.read_lock (h c hc)]
  · simp [hij]

lemma operation_lockOperation (t : TransactionNo) (i j : OperationId) :
    (s.lockOperation t i).operation j = s.operation j := by
  simp only [operation, lockOperation]
  by_cases hij : i = j
  · subst hij
    cases hc : s.operations[i]? <;> simp [hc, Cell.lock, Cell.write]
  · simp [hij]

/-- What a transaction sees, it goes on seeing. -/
def SeesOn (s s' : OperationRows κ ο) (u : TransactionNo) : Prop :=
  ∀ id o, s.seen u id = some o → s'.seen u id = some o

/-- What a call has found stays in sight. -/
def Ready (s : OperationRows κ ο) (t : TransactionNo) : CallProgress κ ο → Prop
  | .conflicted call => ∃ id o, s.seen t id = some o ∧ o.idempotencyKey = call.idempotencyKey
  | .holding id call => s.seen t id = some call
  | _                => True

/-- What a transaction reads in `provider_operation_id`. -/
def pointed (s : OperationRows κ ο) (t : TransactionNo) (p : PaymentId) : Option OperationId :=
  (s.payments[p]?).bind (·.read t)

lemma Ready.mono {progress : CallProgress κ ο} (h : s.Ready u progress) (hsees : s.SeesOn s' u) :
    s'.Ready u progress := by
  cases progress with
  | conflicted call =>
    obtain ⟨id, o, ho, hkey⟩ := h
    exact ⟨id, o, hsees id o ho, hkey⟩
  | holding id call => exact hsees id call h
  | idle            => trivial
  | aborted         => trivial

/-- A transaction goes on to where its call stands now; the others stay where they are. -/
lemma ready_update {progress : CallProgress κ ο} (h : ∀ u, s.Ready u (s.calls u))
    (hsees : ∀ u, s.SeesOn s' u) (hcalls : s'.calls = Function.update s.calls t progress)
    (hnew : s'.Ready t progress) (u : TransactionNo) : s'.Ready u (s'.calls u) := by
  rw [hcalls]
  by_cases hu : u = t
  · subst hu
    rw [Function.update_self]
    exact hnew
  · rw [Function.update_of_ne hu]
    exact (h u).mono (hsees u)

section

variable [DecidableEq κ] {a : OperationStatement κ ο}

/-- Until it is rolled back. -/
lemma Does.seesOn (hdoes : s.Does a s') (h : Keyed s.operations) (hu : a ≠ .rollback u) :
    s.SeesOn s' u := by
  intro id o ho
  cases hdoes with
  | waits | conflicts | fails | loses | points => exact ho
  | inserts => exact seen_insertOperation ho
  | refuses hcall hunlocked => exact (seen_lockOperation hunlocked u id).trans ho
  | finds hcall hunlocked => exact (seen_lockOperation hunlocked u id).trans ho
  | @commits t =>
    obtain ⟨c, hc, hread⟩ := seen_eq_some.mp ho
    refine seen_eq_some.mpr ⟨c.commit t, by simp [hc], ?_⟩
    exact (h.once c (List.mem_of_getElem? hc)).read_commit hread t
  | rollsBack t =>
    have hne : u ≠ t := by
      rintro rfl
      exact hu rfl
    obtain ⟨c, hc, hread⟩ := seen_eq_some.mp ho
    exact seen_eq_some.mpr ⟨c.rollback t, by simp [hc], (Cell.read_rollback_of_ne hne).trans hread⟩

/-- A committed row stays. -/
lemma Does.operation (hdoes : s.Does a s') (h : Keyed s.operations)
    (ho : s.operation i = some o) : s'.operation i = some o := by
  cases hdoes with
  | waits | conflicts | fails | loses | points => exact ho
  | inserts =>
    obtain ⟨c, hc, hcommitted⟩ := operation_eq_some.mp ho
    refine operation_eq_some.mpr ⟨c, ?_, hcommitted⟩
    exact (List.getElem?_append_left (List.getElem?_eq_some_iff.mp hc).1).trans hc
  | refuses hcall hunlocked => exact (operation_lockOperation _ _ i).trans ho
  | finds hcall hunlocked => exact (operation_lockOperation _ _ i).trans ho
  | @commits t =>
    obtain ⟨c, hc, hcommitted⟩ := operation_eq_some.mp ho
    refine operation_eq_some.mpr ⟨c.commit t, by simp [hc], ?_⟩
    exact (h.once c (List.mem_of_getElem? hc)).committed_commit hcommitted t
  | rollsBack t =>
    obtain ⟨c, hc, hcommitted⟩ := operation_eq_some.mp ho
    exact operation_eq_some.mpr ⟨c.rollback t, by simp [hc], by simp [hcommitted]⟩

/-- A row of before carries nothing new. -/
lemma Does.carries (hdoes : s.Does a s')
    {c : Cell TransactionNo (Option (OperationCall κ ο))} (hc : s.operations[i]? = some c) :
    ∃ c', s'.operations[i]? = some c' ∧ ∀ o, c'.Carries o → c.Carries o := by
  have hlock (t : TransactionNo) (j : OperationId) :
      ∃ c', (s.lockOperation t j).operations[i]? = some c' ∧ ∀ o, c'.Carries o → c.Carries o := by
    by_cases hij : j = i
    · subst hij
      exact ⟨c.lock t, by simp [lockOperation, hc], fun _ => Cell.carries_of_lock⟩
    · exact ⟨c, by simp [lockOperation, hij, hc], fun _ h => h⟩
  cases hdoes with
  | waits | conflicts | fails | loses | points => exact ⟨c, hc, fun _ h => h⟩
  | inserts =>
    refine ⟨c, ?_, fun _ h => h⟩
    exact (List.getElem?_append_left (List.getElem?_eq_some_iff.mp hc).1).trans hc
  | refuses => exact hlock _ _
  | finds => exact hlock _ _
  | @commits t => exact ⟨c.commit t, by simp [hc], fun _ => Cell.carries_of_commit⟩
  | rollsBack t => exact ⟨c.rollback t, by simp [hc], fun _ => Cell.carries_of_rollback⟩

/-- A key that a transaction does not see and does not wait for is carried by no row. -/
lemma Keyed.free_of_find? {key : κ} (h : Keyed s.operations) (hawaits : s.awaits t key = false)
    (hfind : s.find? t key = none) :
    ∀ c ∈ s.operations, ∀ o, c.Carries o → o.idempotencyKey ≠ key := by
  intro c hc o ho hkey
  obtain ⟨i, hi⟩ := List.getElem?_of_mem hc
  have hunseen : c.read t ≠ some o := fun hread =>
    find?_eq_none.mp hfind i o (seen_eq_some.mpr ⟨c, hi, hread⟩) hkey
  obtain hcommitted | ⟨u, hheld⟩ := ho
  · exact hunseen ((h.once c hc).read_of_committed hcommitted t)
  · -- the row belongs to another transaction, which `t` would wait for
    have hne : u ≠ t := by
      rintro rfl
      exact hunseen (by simp [Cell.read, hheld])
    have hnone : c.committed = none := by
      cases hcommitted : c.committed with
      | none    => rfl
      | some o' =>
        obtain rfl := (h.once c hc).single o' o (.inl hcommitted) (.inr ⟨u, hheld⟩)
        exact absurd ((h.once c hc).read_of_committed hcommitted t) hunseen
    have hawaited : s.awaits t key = true := by
      rw [awaits, List.any_eq_true]
      exact ⟨c, hc, by simp [hnone, hheld, hne, hkey]⟩
    rw [hawaits] at hawaited
    cases hawaited

/-- A transaction that sees a row under a key waits for nobody who inserts it. -/
lemma Keyed.not_awaits (h : Keyed s.operations) (hseen : s.seen t i = some o) :
    s.awaits t o.idempotencyKey = false := by
  rw [Bool.eq_false_iff]
  intro hawaits
  obtain ⟨d, hd, hheld⟩ := List.any_eq_true.mp hawaits
  simp only [Bool.and_eq_true, Option.isNone_iff_eq_none, Option.any_eq_true, bne_iff_ne,
    holds_iff] at hheld
  obtain ⟨hnone, ⟨u, x⟩, hx, hne, o', rfl, hkey⟩ := hheld
  obtain ⟨j, hj⟩ := List.getElem?_of_mem hd
  obtain ⟨c, hc, hread⟩ := seen_eq_some.mp hseen
  obtain rfl := h.distinct i j c d hc hj o o' (Cell.carries_of_read hread) (.inr ⟨u, hx⟩) hkey.symm
  obtain rfl : c = d := Option.some.inj (hc.symm.trans hj)
  obtain hcommitted | hheld := Cell.committed_or_held_of_read hread
  · rw [hnone] at hcommitted
    cases hcommitted
  · rw [hx] at hheld
    exact hne (Prod.mk.inj (Option.some.inj hheld)).1

lemma Does.keyed (hdoes : s.Does a s') (h : Keyed s.operations) : Keyed s'.operations := by
  have hlock {t : TransactionNo} {i : OperationId} {o : OperationCall κ ο}
      (hseen : s.seen t i = some o) : Keyed (s.lockOperation t i).operations := by
    obtain ⟨c, hc, hread⟩ := seen_eq_some.mp hseen
    refine h.lock (o := o) fun d hd => ?_
    obtain rfl : c = d := Option.some.inj (hc.symm.trans hd)
    exact hread
  cases hdoes with
  | waits | conflicts | fails | loses | points => exact h
  | inserts hcall hawaits hfind => exact h.append (h.free_of_find? hawaits hfind)
  | refuses hcall hunlocked hseen => exact hlock hseen
  | finds hcall hunlocked hseen => exact hlock hseen
  | @commits t => exact h.map (fun _ hc => hc.commit t) fun _ _ => Cell.carries_of_commit
  | rollsBack t => exact h.map (fun _ hc => hc.rollback t) fun _ _ => Cell.carries_of_rollback

/-! ### The invariant -/

/-- One row for a key; a payment points to its own operations, in the committed state and in what
any transaction will commit; and the operation a call has returned is its own, if it is one. -/
structure Sound (s : OperationRows κ ο) : Prop where
  keyed : Keyed s.operations
  committed : ∀ p id, s.pointer p = some id → ∃ o, s.operation id = some o ∧ o.paymentId = p
  pending : ∀ (p : PaymentId) c t id, s.payments[p]? = some c → c.held = some (t, some id) →
    ∃ o, s.seen t id = some o ∧ o.paymentId = p
  ready : ∀ t, s.Ready t (s.calls t)
  returned : ∀ x ∈ s.results, ∀ id, x.result = .ok id →
    ∃ c, s.operations[id]? = some c ∧ ∀ o, c.Carries o → o = x.call

omit [DecidableEq κ] in
lemma Sound.pointed (h : s.Sound) (t : TransactionNo) (p : PaymentId) (id : OperationId)
    (hp : s.pointed t p = some id) : ∃ o, s.seen t id = some o ∧ o.paymentId = p := by
  obtain ⟨c, hc, hread⟩ := Option.bind_eq_some_iff.mp hp
  obtain hcommitted | hheld := Cell.committed_or_held_of_read hread
  · obtain ⟨o, ho, hown⟩ := h.committed p id (Option.bind_eq_some_iff.mpr ⟨c, hc, hcommitted⟩)
    exact ⟨o, h.keyed.seen_of_operation ho t, hown⟩
  · exact h.pending p c t id hc hheld

/-- What a call can give. -/
inductive Gives (s : OperationRows κ ο) : CallResult κ ο → Prop
  | returns {t : TransactionNo} {call : OperationCall κ ο} {id : OperationId}
      (hseen : s.seen t id = some call) : Gives s ⟨t, call, .ok id⟩
  | fails {t : TransactionNo} {call : OperationCall κ ο}
      (hfree : s.find? t call.idempotencyKey = none) :
      Gives s ⟨t, call, .error .foreignKeyViolation⟩
  | refuses {t : TransactionNo} {call o : OperationCall κ ο} {id : OperationId}
      (hseen : s.seen t id = some o) (hkey : o.idempotencyKey = call.idempotencyKey)
      (hdiffers : o ≠ call) : Gives s ⟨t, call, .error keyConflict⟩

/-- The race is never lost. -/
lemma Does.gives (hdoes : s.Does a s') (h : s.Sound) :
    s'.results = s.results ∨ ∃ x, s.Gives x ∧ s'.results = s.results ++ [x] := by
  cases hdoes with
  | waits | conflicts | inserts | finds | commits | rollsBack => exact .inl rfl
  | fails hcall hfind => exact .inr ⟨_, .fails hfind, rfl⟩
  | @loses t call hcall hfind =>
    have hready := h.ready t
    rw [hcall] at hready
    obtain ⟨id, o, ho, hkey⟩ := hready
    exact absurd hkey (find?_eq_none.mp hfind id o ho)
  | refuses hcall hunlocked hseen hkey hdiffers => exact .inr ⟨_, .refuses hseen hkey hdiffers, rfl⟩
  | @points t call id hcall hunlocked =>
    have hready := h.ready t
    rw [hcall] at hready
    exact .inr ⟨_, .returns hready, rfl⟩

/-- Where a committed row holds the key, the call gives that row or is refused. -/
lemma Gives.result {x : CallResult κ ο} [DecidableEq ο] (hgives : s.Gives x)
    (h : Keyed s.operations) (ho : s.operation i = some o)
    (hkey : x.call.idempotencyKey = o.idempotencyKey) :
    x.result = if x.call = o then .ok i else .error keyConflict := by
  cases hgives with
  | @returns t call id hseen =>
    obtain ⟨rfl, rfl⟩ := h.seen_unique hseen (h.seen_of_operation ho t) hkey
    exact (if_pos rfl).symm
  | @fails t call hfree =>
    exact absurd hkey.symm (find?_eq_none.mp hfree i o (h.seen_of_operation ho t))
  | @refuses t call o' id hseen hkey' hdiffers =>
    obtain ⟨-, rfl⟩ := h.seen_unique hseen (h.seen_of_operation ho t) (hkey'.trans hkey)
    exact (if_neg (Ne.symm hdiffers)).symm

lemma Does.returned (hdoes : s.Does a s') (h : s.Sound) :
    ∀ x ∈ s'.results, ∀ id, x.result = .ok id →
      ∃ c, s'.operations[id]? = some c ∧ ∀ o, c.Carries o → o = x.call := by
  intro x hx id hid
  have hold {y : CallResult κ ο} (hy : ∃ c, s.operations[id]? = some c ∧
      ∀ o, c.Carries o → o = y.call) :
      ∃ c, s'.operations[id]? = some c ∧ ∀ o, c.Carries o → o = y.call := by
    obtain ⟨c, hc, hrow⟩ := hy
    obtain ⟨c', hc', hcarries⟩ := hdoes.carries hc
    exact ⟨c', hc', fun o ho => hrow o (hcarries o ho)⟩
  obtain hsame | ⟨y, hgives, hadded⟩ := hdoes.gives h
  · exact hold (h.returned x (hsame ▸ hx) id hid)
  · rw [hadded, List.mem_append, List.mem_singleton] at hx
    obtain hx | rfl := hx
    · exact hold (h.returned x hx id hid)
    · cases hgives with
      | @returns t call i hseen =>
        obtain rfl := Except.ok.inj hid
        obtain ⟨c, hc, hread⟩ := seen_eq_some.mp hseen
        have hsingle := (h.keyed.once c (List.mem_of_getElem? hc)).single
        exact hold ⟨c, hc, fun o ho => hsingle o call ho (Cell.carries_of_read hread)⟩
      | fails hfree => cases hid
      | refuses hseen => cases hid

/-! ### The payments -/

lemma Does.committed (hdoes : s.Does a s') (h : s.Sound) (p : PaymentId) (id : OperationId)
    (hp : s'.pointer p = some id) : ∃ o, s'.operation id = some o ∧ o.paymentId = p := by
  have hold (hp : s.pointer p = some id) : ∃ o, s'.operation id = some o ∧ o.paymentId = p := by
    obtain ⟨o, ho, hown⟩ := h.committed p id hp
    exact ⟨o, hdoes.operation h.keyed ho, hown⟩
  cases hdoes with
  | waits | conflicts | inserts | fails | loses | refuses | finds => exact hold hp
  | points =>
    obtain ⟨c', hc', hcommitted⟩ := Option.bind_eq_some_iff.mp hp
    obtain ⟨c, hc, ⟨-, rfl⟩ | ⟨-, rfl⟩⟩ := getElem?_of_modify hc'
    · exact hold (Option.bind_eq_some_iff.mpr ⟨c, hc, hcommitted⟩)
    · exact hold (Option.bind_eq_some_iff.mpr ⟨c', hc, hcommitted⟩)
  | @commits t =>
    simp only [pointer, List.getElem?_map, Option.bind_map] at hp
    obtain ⟨c, hc, hcommitted⟩ := Option.bind_eq_some_iff.mp hp
    rw [Function.comp_apply, Cell.committed_commit] at hcommitted
    obtain hcommitted | hheld := Cell.committed_or_held_of_read hcommitted
    · exact hold (Option.bind_eq_some_iff.mpr ⟨c, hc, hcommitted⟩)
    · obtain ⟨o, ho, hown⟩ := h.pending p c t id hc hheld
      obtain ⟨d, hd, hread⟩ := seen_eq_some.mp ho
      exact ⟨o, operation_eq_some.mpr ⟨d.commit t, by simp [hd], by simp [hread]⟩, hown⟩
  | rollsBack t =>
    simp only [pointer, List.getElem?_map, Option.bind_map] at hp
    obtain ⟨c, hc, hcommitted⟩ := Option.bind_eq_some_iff.mp hp
    rw [Function.comp_apply, Cell.committed_rollback] at hcommitted
    exact hold (Option.bind_eq_some_iff.mpr ⟨c, hc, hcommitted⟩)

lemma Does.pending (hdoes : s.Does a s') (h : s.Sound) (p : PaymentId)
    (c' : Cell TransactionNo (Option OperationId)) (u : TransactionNo) (id : OperationId)
    (hc' : s'.payments[p]? = some c') (hheld : c'.held = some (u, some id)) :
    ∃ o, s'.seen u id = some o ∧ o.paymentId = p := by
  have hold {c : Cell TransactionNo (Option OperationId)} (hc : s.payments[p]? = some c)
      (hheld : c.held = some (u, some id)) (ha : a ≠ .rollback u) :
      ∃ o, s'.seen u id = some o ∧ o.paymentId = p := by
    obtain ⟨o, ho, hown⟩ := h.pending p c u id hc hheld
    exact ⟨o, hdoes.seesOn h.keyed ha id o ho, hown⟩
  cases hdoes with
  | waits => exact h.pending p c' u id hc' hheld
  | conflicts | inserts | fails | loses | refuses | finds => exact hold hc' hheld (by simp)
  | @points t call i hcall =>
    obtain ⟨c, hc, ⟨hp, rfl⟩ | ⟨-, rfl⟩⟩ := getElem?_of_modify hc'
    · obtain ⟨rfl, hi⟩ := Prod.mk.inj (Option.some.inj hheld)
      obtain rfl := Option.some.inj hi
      have hready := h.ready t
      rw [hcall] at hready
      exact ⟨call, hready, hp⟩
    · exact hold hc hheld (by simp)
  | @commits t =>
    rw [List.getElem?_map] at hc'
    obtain ⟨c, hc, rfl⟩ := Option.map_eq_some_iff.mp hc'
    exact hold hc (Cell.held_of_commit hheld).1 (by simp)
  | rollsBack t =>
    rw [List.getElem?_map] at hc'
    obtain ⟨c, hc, rfl⟩ := Option.map_eq_some_iff.mp hc'
    obtain ⟨hbefore, hne⟩ := Cell.held_of_rollback hheld
    refine hold hc hbefore ?_
    rintro ⟨⟩
    exact hne rfl

/-! ### The calls -/

lemma Does.ready (hdoes : s.Does a s') (h : s.Sound) (u : TransactionNo) :
    s'.Ready u (s'.calls u) := by
  have hsees := fun (u : TransactionNo) (ha : a ≠ .rollback u) => hdoes.seesOn h.keyed ha
  cases hdoes with
  | waits => exact h.ready u
  | @conflicts t call id hcall hfind =>
    obtain ⟨o, ho, hkey⟩ := find?_seen hfind
    have hnew : (s.setCall t (.conflicted call)).Ready t (.conflicted call) := ⟨id, o, ho, hkey⟩
    exact ready_update h.ready (fun u => hsees u (by simp)) rfl hnew u
  | @inserts t call =>
    have hnew : (s.insertOperation t call).Ready t (.holding s.operations.length call) :=
      seen_insertOperation_self
    exact ready_update h.ready (fun u => hsees u (by simp)) rfl hnew u
  | @finds t call id hcall hunlocked hseen =>
    have hnew : (s.lockOperation t id).Ready t (.holding id call) :=
      (seen_lockOperation hunlocked t id).trans hseen
    exact ready_update h.ready (fun u => hsees u (by simp)) rfl hnew u
  | @fails t call =>
    have hnew : s.Ready t .aborted := trivial
    exact ready_update h.ready (fun u => hsees u (by simp)) rfl hnew u
  | @loses t | @refuses t | @points t =>
    have hnew : s.Ready t .idle := trivial
    exact ready_update h.ready (fun u => hsees u (by simp)) rfl hnew u
  | commits => exact (h.ready u).mono (hsees u (by simp))
  | rollsBack t =>
    by_cases hu : u = t
    · subst hu
      simp only [Function.update_self]
      trivial
    · simp only [Function.update_of_ne hu]
      refine (h.ready u).mono (hsees u ?_)
      rintro ⟨⟩
      exact hu rfl

/-- The other transactions leave a call where it stands. -/
lemma Does.calls (hdoes : s.Does a s') (ha : a.transaction ≠ t) : s'.calls t = s.calls t := by
  cases hdoes with
  | waits | commits => rfl
  | conflicts | inserts | fails | loses | refuses | finds | points | rollsBack =>
    exact Function.update_of_ne (Ne.symm ha) _ _

/-- Every statement of every transaction keeps the invariant. -/
theorem Does.sound (hdoes : s.Does a s') (h : s.Sound) : s'.Sound where
  keyed := hdoes.keyed h.keyed
  committed := hdoes.committed h
  pending := hdoes.pending h
  ready := hdoes.ready h
  returned := hdoes.returned h

end

/-! ### Runs -/

/-- What the unique index and the foreign keys ask of the rows, and that a payment points to its
own operations. -/
structure Consistent (operations : List (OperationCall κ ο))
    (payments : List (Option OperationId)) : Prop where
  keys : (operations.map (·.idempotencyKey)).Nodup
  pointers : ∀ (p : PaymentId) id, payments[p]? = some (some id) →
    ∃ o, operations[id]? = some o ∧ o.paymentId = p

lemma start_sound {operations : List (OperationCall κ ο)} {payments : List (Option OperationId)}
    (h : Consistent operations payments) : (start operations payments).Sound where
  keyed :=
    { once := by
        intro c hc
        obtain ⟨o, -, rfl⟩ := List.mem_map.mp hc
        exact Cell.once_committed (some o)
      distinct := by
        intro i j c d hc hd o o' ho ho' hkey
        rw [start, List.getElem?_map] at hc hd
        obtain ⟨o₁, ho₁, rfl⟩ := Option.map_eq_some_iff.mp hc
        obtain ⟨o₂, ho₂, rfl⟩ := Option.map_eq_some_iff.mp hd
        obtain rfl := (Cell.once_committed (some o₁)).single o o₁ ho (.inl rfl)
        obtain rfl := (Cell.once_committed (some o₂)).single o' o₂ ho' (.inl rfl)
        have hlt := (List.getElem?_eq_some_iff.mp ho₁).1
        exact (List.getElem?_inj (by simpa using hlt) h.keys).mp (by simp [ho₁, ho₂, hkey]) }
  committed p id hp := by
    obtain ⟨c, hc, hcommitted⟩ := Option.bind_eq_some_iff.mp hp
    rw [start, List.getElem?_map] at hc
    obtain ⟨x, hx, rfl⟩ := Option.map_eq_some_iff.mp hc
    obtain rfl : x = some id := hcommitted
    obtain ⟨o, ho, hown⟩ := h.pointers p id hx
    exact ⟨o, operation_eq_some.mpr ⟨⟨some o, none⟩, by simp [start, ho], rfl⟩, hown⟩
  pending p c t id hc hheld := by
    rw [start, List.getElem?_map] at hc
    obtain ⟨x, -, rfl⟩ := Option.map_eq_some_iff.mp hc
    cases hheld
  ready t := trivial
  returned x hx := by cases hx

variable [DecidableEq κ] [DecidableEq ο] {a : OperationStatement κ ο}

theorem run_sound (h : s.Sound) (schedule : List (OperationStatement κ ο)) :
    (Machine.run step s schedule).Sound :=
  Machine.run_invariant (fun s a h => (step_does s a).sound h) h schedule

/-- A committed row stays, and every call under its key that ends from then on gives it or is
refused. -/
theorem run_operation (h : s.Sound) (ho : s.operation i = some o)
    (later : List (OperationStatement κ ο)) :
    (Machine.run step s later).operation i = some o ∧
      ∃ ended, (Machine.run step s later).results = s.results ++ ended ∧
        ∀ x ∈ ended, x.call.idempotencyKey = o.idempotencyKey →
          x.result = if x.call = o then .ok i else .error keyConflict := by
  induction later generalizing s with
  | nil => exact ⟨ho, [], by simp, by simp⟩
  | cons a later ih =>
    have hdoes := step_does s a
    obtain ⟨hkept, ended, hended, hresults⟩ := ih (hdoes.sound h) (hdoes.operation h.keyed ho)
    refine ⟨hkept, ?_⟩
    obtain hsame | ⟨x, hgives, hadded⟩ := hdoes.gives h
    · exact ⟨ended, by rw [Machine.run_cons, hended, hsame], hresults⟩
    · refine ⟨x :: ended, by rw [Machine.run_cons, hended, hadded]; simp, ?_⟩
      intro y hy hkey
      obtain rfl | hlater := List.mem_cons.mp hy
      · exact hgives.result h.keyed ho hkey
      · exact hresults y hlater hkey

/-! ### Reuse of a key -/

/-- Every transaction sees the same rows, and what is committed is the same. -/
structure SameRows (s s' : OperationRows κ ο) : Prop where
  operation : ∀ id, s'.operation id = s.operation id
  seen : ∀ u id, s'.seen u id = s.seen u id
  payments : s'.payments = s.payments

omit [DecidableEq κ] [DecidableEq ο] in
lemma SameRows.lockOperation (h : s.Unlocked t i) : s.SameRows (s.lockOperation t i) where
  operation := operation_lockOperation t i
  seen := seen_lockOperation h
  payments := rfl

/-- What a call has found, and how far it has come, does not depend on what the other transactions
do in the meantime. -/
lemma run_others (h : s.Sound) (hseen : s.seen t i = some o)
    {others : List (OperationStatement κ ο)} (hothers : ∀ a ∈ others, a.transaction ≠ t) :
    (Machine.run step s others).calls t = s.calls t ∧
      (Machine.run step s others).seen t i = some o := by
  induction others generalizing s with
  | nil => exact ⟨rfl, hseen⟩
  | cons a others ih =>
    have hdoes := step_does s a
    have ha := hothers a List.mem_cons_self
    have hrollback : a ≠ .rollback t := by
      rintro rfl
      exact ha rfl
    obtain ⟨hcalls, hlater⟩ := ih (hdoes.sound h) (hdoes.seesOn h.keyed hrollback i o hseen)
      fun b hb => hothers b (List.mem_cons_of_mem a hb)
    exact ⟨hcalls.trans (hdoes.calls ha), hlater⟩

/-- A call under a key that names another operation changes nothing: the insert does nothing, and
the second read, whatever the others have done in between, waits for a lock or raises. -/
theorem reuse_changes_nothing (h : s.Sound) (hidle : s.calls t = .idle)
    (hseen : s.seen t i = some o) (hkey : o.idempotencyKey = call.idempotencyKey)
    (hdiffers : o ≠ call) {others : List (OperationStatement κ ο)}
    (hothers : ∀ a ∈ others, a.transaction ≠ t) :
    let s₁ := s.step (.insert t call)
    let s₂ := Machine.run step s₁ others
    let s₃ := s₂.step (.fetch t)
    s.SameRows s₁ ∧ s₂.SameRows s₃ ∧
      (¬ s₂.Unlocked t i ∧ s₃ = s₂ ∨
        s₃.results = s₂.results ++ [⟨t, call, .error keyConflict⟩] ∧ s₃.calls t = .idle) := by
  intro s₁ s₂ s₃
  have hfind {s : OperationRows κ ο} (h : s.Sound) (hseen : s.seen t i = some o) :
      s.find? t call.idempotencyKey = some i := by
    cases hfind : s.find? t call.idempotencyKey with
    | none   => exact absurd hkey (find?_eq_none.mp hfind i o hseen)
    | some j =>
      obtain ⟨o', ho', hkey'⟩ := find?_seen hfind
      rw [(h.keyed.seen_unique ho' hseen (hkey'.trans hkey.symm)).1]
  have hs₁ : s₁ = s.setCall t (.conflicted call) := by
    have hawaits := h.keyed.not_awaits hseen
    rw [hkey] at hawaits
    simp only [s₁, step_insert hidle, insert, hawaits, hfind h hseen, Option.isSome_some,
      Bool.false_eq_true, if_false, if_true]
  have hsound₁ : s₁.Sound := (step_does s (.insert t call)).sound h
  have hseen₁ : s₁.seen t i = some o := by
    rw [hs₁]
    exact hseen
  have hsound₂ : s₂.Sound := run_sound hsound₁ others
  obtain ⟨hcall₂, hseen₂⟩ := run_others hsound₁ hseen₁ hothers
  rw [hs₁, calls_setCall, ← hs₁] at hcall₂
  have hs₃ : s₃ = s₂.fetch t call := step_fetch hcall₂
  have hmismatch : o.paymentId ≠ call.paymentId ∨ o.operationType ≠ call.operationType := by
    by_contra hsame
    rw [not_or, not_not, not_not] at hsame
    apply hdiffers
    cases o
    cases call
    simp_all
  refine ⟨hs₁ ▸ ⟨fun _ => rfl, fun _ _ => rfl, rfl⟩, ?_⟩
  rw [hs₃, fetch_of_find? (hfind hsound₂ hseen₂) hseen₂, if_pos hmismatch]
  by_cases hunlocked : s₂.Unlocked t i
  · rw [if_pos hunlocked]
    obtain ⟨hoperation, hseen, hpayments⟩ := SameRows.lockOperation hunlocked
    exact ⟨⟨hoperation, hseen, hpayments⟩, .inr ⟨rfl, calls_setCall _ _ _⟩⟩
  · rw [if_neg hunlocked]
    exact ⟨⟨fun _ => rfl, fun _ _ => rfl, rfl⟩, .inl ⟨hunlocked, rfl⟩⟩

/-! ### Keys -/

/-- However the statements of any number of transactions interleave: a key has one committed
operation at most, which stays; a call under its key that ends afterwards gives it, if the call is
the one it was created for, and is refused otherwise; a call that is refused changes no row; and
the operation a payment points to, for whomever, is one of its own. -/
theorem run_keysBound {operations : List (OperationCall κ ο)} {payments : List (Option OperationId)}
    (h : Consistent operations payments) (schedule : List (OperationStatement κ ο)) :
    let s := Machine.run step (start operations payments) schedule
    (∀ i j o o', s.operation i = some o → s.operation j = some o' →
      o.idempotencyKey = o'.idempotencyKey → i = j) ∧
    (∀ i o, s.operation i = some o → ∀ later : List (OperationStatement κ ο),
      (Machine.run step s later).operation i = some o ∧
        ∃ ended, (Machine.run step s later).results = s.results ++ ended ∧
          ∀ x ∈ ended, x.call.idempotencyKey = o.idempotencyKey →
            x.result = if x.call = o then .ok i else .error keyConflict) ∧
    (∀ x ∈ s.results, ∀ i, x.result = .ok i → ∀ o, s.operation i = some o → o = x.call) ∧
    (∀ t i o call, s.calls t = .idle → s.seen t i = some o →
      o.idempotencyKey = call.idempotencyKey → o ≠ call →
      ∀ others : List (OperationStatement κ ο), (∀ a ∈ others, a.transaction ≠ t) →
        let s₁ := s.step (.insert t call)
        let s₂ := Machine.run step s₁ others
        let s₃ := s₂.step (.fetch t)
        s.SameRows s₁ ∧ s₂.SameRows s₃ ∧
          (¬ s₂.Unlocked t i ∧ s₃ = s₂ ∨
            s₃.results = s₂.results ++ [⟨t, call, .error keyConflict⟩] ∧ s₃.calls t = .idle)) ∧
    (∀ p i, s.pointer p = some i → ∃ o, s.operation i = some o ∧ o.paymentId = p) ∧
    ∀ t p i, s.pointed t p = some i → ∃ o, s.seen t i = some o ∧ o.paymentId = p := by
  intro s
  have hs : s.Sound := run_sound (start_sound h) schedule
  refine ⟨?_, ?_, ?_, ?_, hs.committed, hs.pointed⟩
  · intro i j o o' ho ho' hkey
    have hseen := hs.keyed.seen_of_operation ho 0
    exact (hs.keyed.seen_unique hseen (hs.keyed.seen_of_operation ho' 0) hkey).1
  · intro i o ho later
    exact run_operation hs ho later
  · intro x hx i hi o ho
    obtain ⟨c, hc, hrow⟩ := hs.returned x hx i hi
    obtain ⟨d, hd, hcommitted⟩ := operation_eq_some.mp ho
    obtain rfl : c = d := Option.some.inj (hc.symm.trans hd)
    exact hrow o (.inl hcommitted)
  · intro t i o call hidle hseen hkey hdiffers others hothers
    exact reuse_changes_nothing hs hidle hseen hkey hdiffers hothers

/-- Two transactions create an operation under one key, for different payments: the second waits,
the first is rolled back, and the key is bound to the call of the second. The first, which tries
again, is refused. -/
def rolledBackFirst : List (OperationStatement String String) :=
  let first : OperationCall String String := ⟨1, "REFUND", "key"⟩
  let second : OperationCall String String := ⟨0, "VOID", "key"⟩
  [.insert 0 first, .insert 1 second, .point 0, .rollback 0, .insert 1 second, .insert 0 first,
    .point 1, .commit 1, .insert 0 first, .fetch 0, .commit 0]

theorem run_keysBound_rolledBackFirst :
    let operations : List (OperationCall String String) := [⟨0, "CAPTURE", "first key"⟩]
    let s := Machine.run step (start operations [some 0, none]) rolledBackFirst
    let second : OperationCall String String := ⟨0, "VOID", "key"⟩
    s.operation 2 = some second ∧
      s.results.map (fun x => (x.transaction, x.result.toOption)) =
        [(0, some 1), (1, some 2), (0, none)] ∧
      (∀ later : List (OperationStatement String String),
        (Machine.run step s later).operation 2 = some second) ∧
      ∀ p i, s.pointer p = some i → ∃ o, s.operation i = some o ∧ o.paymentId = p := by
  intro operations s second
  have hconsistent : Consistent operations [some 0, none] := by
    refine ⟨by decide, ?_⟩
    intro p id hp
    have hlt := (List.getElem?_eq_some_iff.mp hp).1
    obtain rfl | rfl := Nat.le_one_iff_eq_zero_or_eq_one.mp (Nat.lt_succ_iff.mp hlt)
    · obtain rfl : 0 = id := by simpa using hp
      exact ⟨_, rfl, rfl⟩
    · simp at hp
  have hrow : s.operation 2 = some second := by decide +kernel
  obtain ⟨-, hstays, -, -, hpointers, -⟩ := run_keysBound hconsistent rolledBackFirst
  exact ⟨hrow, by decide +kernel, fun later => (hstays 2 second hrow later).1, hpointers⟩

end OperationRows

end AgentPay
