import AgentPay.Support.Table

/-!
# Rows under row locks

Transactions that lock a row before they write it. A row has the value that is committed and, while
a transaction holds its lock, the value that transaction will commit. What a transaction has
changed of a total over the rows is added to the committed total when it commits, and the changes
of the others stay as they are.
-/

namespace Support.RowLock

variable {τ ρ : Type*}

/-- A row: its committed value, and the value of the transaction that holds its lock. -/
structure Cell (τ ρ : Type*) where
  committed : ρ
  held : Option (τ × ρ)
  deriving DecidableEq, Repr

namespace Cell

/-- No other transaction holds the lock. -/
def Free (c : Cell τ ρ) (t : τ) : Prop := ∀ x ∈ c.held, x.1 = t

/-- The transaction holds the lock. -/
def HeldBy (c : Cell τ ρ) (t : τ) : Prop := ∃ v, c.held = some (t, v)

/-- `UPDATE` -/
def write (c : Cell τ ρ) (t : τ) (v : ρ) : Cell τ ρ := { c with held := some (t, v) }

/-- A row nobody has locked. -/
lemma free_unheld (r : ρ) (t : τ) : (⟨r, none⟩ : Cell τ ρ).Free t := by
  intro x hx
  cases hx

lemma HeldBy.free {c : Cell τ ρ} {t : τ} (h : c.HeldBy t) : c.Free t := by
  obtain ⟨v, hv⟩ := h
  intro x hx
  rw [hv] at hx
  obtain rfl := Option.some.inj hx
  rfl

variable [DecidableEq τ]

instance (c : Cell τ ρ) (t : τ) : Decidable (c.Free t) := by
  unfold Free
  infer_instance

/-- The value a transaction reads: its own, or the committed one. -/
def read (c : Cell τ ρ) (t : τ) : ρ :=
  match c.held with
  | some (u, v) => if u = t then v else c.committed
  | none        => c.committed

/-- `SELECT … FOR UPDATE` -/
def lock (c : Cell τ ρ) (t : τ) : Cell τ ρ := c.write t (c.read t)

/-- `COMMIT` -/
def commit (t : τ) (c : Cell τ ρ) : Cell τ ρ :=
  match c.held with
  | some (u, v) => if u = t then ⟨v, none⟩ else c
  | none        => c

/-- `ROLLBACK` -/
def rollback (t : τ) (c : Cell τ ρ) : Cell τ ρ :=
  match c.held with
  | some (u, _) => if u = t then ⟨c.committed, none⟩ else c
  | none        => c

/-! ### What a transaction reads -/

lemma read_of_free {c : Cell τ ρ} {t u : τ} (h : c.Free t) (hne : u ≠ t) :
    c.read u = c.committed := by
  rcases c with ⟨committed, - | ⟨w, v⟩⟩
  · rfl
  · obtain rfl : w = t := h (w, v) rfl
    simp [read, hne.symm]

@[simp] lemma read_write_self (c : Cell τ ρ) (t : τ) (v : ρ) : (c.write t v).read t = v := by
  simp [read, write]

lemma read_write_of_ne {c : Cell τ ρ} {t u : τ} (hne : u ≠ t) (v : ρ) :
    (c.write t v).read u = c.committed := by
  simp [read, write, hne.symm]

/-- A lock changes no value that is read. -/
lemma read_lock {c : Cell τ ρ} {t : τ} (h : c.Free t) (u : τ) : (c.lock t).read u = c.read u := by
  by_cases hu : u = t
  · subst hu
    exact read_write_self c u _
  · rw [lock, read_write_of_ne hu, read_of_free h hu]

@[simp] lemma committed_commit (c : Cell τ ρ) (t : τ) :
    (c.commit t).committed = c.read t := by
  rcases c with ⟨committed, - | ⟨w, v⟩⟩
  · rfl
  · simp only [commit, read]
    split_ifs <;> rfl

@[simp] lemma committed_rollback (c : Cell τ ρ) (t : τ) :
    (c.rollback t).committed = c.committed := by
  rcases c with ⟨committed, - | ⟨w, v⟩⟩
  · rfl
  · simp only [rollback]
    split_ifs <;> rfl

/-- A transaction reads what is committed or what it holds. -/
lemma committed_or_held_of_read {c : Cell τ (Option ρ)} {t : τ} {v : ρ}
    (h : c.read t = some v) : c.committed = some v ∨ c.held = some (t, some v) := by
  rcases c with ⟨committed, - | ⟨w, x⟩⟩
  · exact .inl h
  · simp only [read] at h
    split_ifs at h with hw
    · exact .inr (by rw [hw, h])
    · exact .inl h

/-- The locks that are left when a transaction ends are those of the others. -/
lemma held_of_commit {c : Cell τ ρ} {t : τ} {x : τ × ρ} (h : (c.commit t).held = some x) :
    c.held = some x ∧ x.1 ≠ t := by
  rcases c with ⟨committed, - | ⟨w, v⟩⟩
  · cases h
  · simp only [commit] at h
    split_ifs at h with hw
    obtain rfl := Option.some.inj h
    exact ⟨rfl, hw⟩

lemma held_of_rollback {c : Cell τ ρ} {t : τ} {x : τ × ρ} (h : (c.rollback t).held = some x) :
    c.held = some x ∧ x.1 ≠ t := by
  rcases c with ⟨committed, - | ⟨w, v⟩⟩
  · cases h
  · simp only [rollback] at h
    split_ifs at h with hw
    obtain rfl := Option.some.inj h
    exact ⟨rfl, hw⟩

/-- After its end a transaction reads what is committed. -/
@[simp] lemma read_commit_self (c : Cell τ ρ) (t : τ) : (c.commit t).read t = c.read t := by
  rcases c with ⟨committed, - | ⟨w, v⟩⟩
  · rfl
  · by_cases hw : w = t
    · simp [commit, read, hw]
    · simp [commit, read, hw]

@[simp] lemma read_rollback_self (c : Cell τ ρ) (t : τ) :
    (c.rollback t).read t = c.committed := by
  rcases c with ⟨committed, - | ⟨w, v⟩⟩
  · rfl
  · by_cases hw : w = t
    · simp [rollback, read, hw]
    · simp [rollback, read, hw]

/-- Nobody reads a new value once a transaction has ended, except what it has committed. -/
lemma read_commit (c : Cell τ ρ) (t u : τ) :
    (c.commit t).read u = c.read u ∧ (c.commit t).committed = c.committed ∨
      (c.commit t).read u = c.read t := by
  rcases c with ⟨committed, - | ⟨w, v⟩⟩
  · exact .inl ⟨rfl, rfl⟩
  · by_cases hw : w = t
    · exact .inr (by simp [commit, read, hw])
    · exact .inl (by simp [commit, hw])

lemma read_rollback (c : Cell τ ρ) (t u : τ) :
    (c.rollback t).read u = c.read u ∨ (c.rollback t).read u = c.committed := by
  rcases c with ⟨committed, - | ⟨w, v⟩⟩
  · exact .inl rfl
  · by_cases hw : w = t
    · exact .inr (by simp [rollback, read, hw])
    · exact .inl (by simp [rollback, hw])

/-- Another transaction's lock survives the end of a transaction, with the committed value. -/
lemma commit_of_held {c : Cell τ ρ} {t u : τ} (hne : u ≠ t) {v : ρ} (h : c.held = some (u, v)) :
    c.commit t = c := by
  rcases c with ⟨committed, held⟩
  subst h
  simp [commit, hne]

lemma rollback_of_held {c : Cell τ ρ} {t u : τ} (hne : u ≠ t) {v : ρ}
    (h : c.held = some (u, v)) : c.rollback t = c := by
  rcases c with ⟨committed, held⟩
  subst h
  simp [rollback, hne]

end Cell

/-- A row of a table in which one row is rewritten. -/
lemma getElem?_of_modify {rows : List ρ} {f : ρ → ρ} {i j : ℕ} {r : ρ}
    (h : (rows.modify i f)[j]? = some r) :
    ∃ r₀, rows[j]? = some r₀ ∧ (i = j ∧ r = f r₀ ∨ i ≠ j ∧ r = r₀) := by
  rw [List.getElem?_modify] at h
  obtain ⟨r₀, hr₀, hr⟩ := Option.map_eq_some_iff.mp h
  refine ⟨r₀, hr₀, ?_⟩
  by_cases hij : i = j
  · rw [if_pos hij] at hr
    exact .inl ⟨hij, hr.symm⟩
  · rw [if_neg hij] at hr
    exact .inr ⟨hij, hr.symm⟩

/-- A row of a table in which every row is rewritten. -/
lemma getElem?_of_map {ρ' : Type*} {rows : List ρ} {f : ρ → ρ'} {i : ℕ} {r : ρ'}
    (h : (rows.map f)[i]? = some r) : ∃ r₀, rows[i]? = some r₀ ∧ f r₀ = r := by
  rwa [List.getElem?_map, Option.map_eq_some_iff] at h

/-- A row of a table to which one is added. -/
lemma getElem?_of_concat {rows : List ρ} {r r' : ρ} {i : ℕ} (h : (rows ++ [r])[i]? = some r') :
    rows[i]? = some r' ∨ i = rows.length ∧ r' = r := by
  rw [List.getElem?_append] at h
  split_ifs at h with hlt
  · exact .inl h
  · rw [List.getElem?_singleton] at h
    split_ifs at h with hi
    exact .inr ⟨by omega, (Option.some.inj h).symm⟩

/-! ### What a transaction reads of a table -/

section View

variable [DecidableEq τ] {rows : List (Cell τ ρ)} {i : ℕ} {c : Cell τ ρ}

@[simp] lemma map_read_write (rows : List (Cell τ ρ)) (i : ℕ) (t : τ) (v : ρ) :
    (rows.modify i (·.write t v)).map (·.read t) = (rows.map (·.read t)).set i v := by
  apply List.ext_getElem?
  intro j
  by_cases hij : i = j
  · subst hij
    cases h : rows[i]? <;> simp [List.getElem?_set_self', h]
  · simp [hij]

lemma map_read_lock (hc : rows[i]? = some c) {t : τ} (hfree : c.Free t) (u : τ) :
    (rows.modify i (·.lock t)).map (·.read u) = rows.map (·.read u) := by
  apply List.ext_getElem?
  intro j
  by_cases hij : i = j
  · subst hij
    simp [hc, Cell.read_lock hfree]
  · simp [hij]

end View

/-! ### Rows that are inserted once

The row of a cell that begins empty. Its transaction may roll it back; once it is committed it is
locked at most. -/

section Once

namespace Cell

/-- The row is committed, or will be. -/
def Carries (c : Cell τ (Option ρ)) (r : ρ) : Prop :=
  c.committed = some r ∨ ∃ t, c.held = some (t, some r)

/-- A cell carries one row at most, and no transaction deletes it. -/
structure Once (c : Cell τ (Option ρ)) : Prop where
  held : ∀ x ∈ c.held, x.2 ≠ none
  single : ∀ r r', c.Carries r → c.Carries r' → r = r'

variable {c : Cell τ (Option ρ)} {t u : τ} {r : ρ}

lemma once_committed (r : Option ρ) : (⟨r, none⟩ : Cell τ (Option ρ)).Once where
  held x hx := by cases hx
  single r₁ r₂ h₁ h₂ := by
    obtain h₁ | ⟨u, h₁⟩ := h₁
    · obtain h₂ | ⟨u, h₂⟩ := h₂
      · exact Option.some.inj (h₁.symm.trans h₂)
      · cases h₂
    · cases h₁

lemma once_inserted (t : τ) (r : ρ) : (⟨none, some (t, some r)⟩ : Cell τ (Option ρ)).Once where
  held x hx := by
    obtain rfl := Option.some.inj hx
    simp
  single r₁ r₂ h₁ h₂ := by
    simp only [Carries, reduceCtorEq, false_or, Option.some.injEq, Prod.mk.injEq] at h₁ h₂
    obtain ⟨-, -, rfl⟩ := h₁
    obtain ⟨-, -, rfl⟩ := h₂
    rfl

variable [DecidableEq τ]

lemma carries_of_read (h : c.read t = some r) : c.Carries r :=
  (committed_or_held_of_read h).imp_right fun hheld => ⟨t, hheld⟩

lemma carries_of_commit (h : (c.commit t).Carries r) : c.Carries r := by
  rcases c with ⟨committed, - | ⟨w, v⟩⟩
  · exact h
  · simp only [commit] at h
    split_ifs at h
    · obtain h | ⟨u, h⟩ := h
      · exact .inr ⟨w, by rw [← h]⟩
      · cases h
    · exact h

lemma carries_of_rollback (h : (c.rollback t).Carries r) : c.Carries r := by
  rcases c with ⟨committed, - | ⟨w, v⟩⟩
  · exact h
  · simp only [rollback] at h
    split_ifs at h
    · obtain h | ⟨u, h⟩ := h
      · exact .inl h
      · cases h
    · exact h

lemma carries_of_lock (h : (c.lock t).Carries r) : c.Carries r := by
  obtain h | ⟨u, h⟩ := h
  · exact .inl h
  · obtain ⟨-, h⟩ := Prod.mk.inj (Option.some.inj h)
    exact carries_of_read h

namespace Once

/-- Every transaction reads what is committed. -/
lemma read_of_committed (h : c.Once) (hr : c.committed = some r) (t : τ) : c.read t = some r := by
  rcases c with ⟨committed, - | ⟨w, v⟩⟩
  · exact hr
  · simp only [read]
    split_ifs
    · cases v with
      | none    => exact absurd rfl (h.held _ rfl)
      | some r' => rw [h.single r' r (.inr ⟨w, rfl⟩) (.inl hr)]
    · exact hr

lemma commit (h : c.Once) (t : τ) : (c.commit t).Once where
  held x hx := by
    rcases c with ⟨committed, - | ⟨w, v⟩⟩
    · exact h.held x hx
    · simp only [Cell.commit] at hx
      split_ifs at hx
      · cases hx
      · exact h.held x hx
  single r r' hr hr' := h.single r r' (carries_of_commit hr) (carries_of_commit hr')

lemma rollback (h : c.Once) (t : τ) : (c.rollback t).Once where
  held x hx := by
    rcases c with ⟨committed, - | ⟨w, v⟩⟩
    · exact h.held x hx
    · simp only [Cell.rollback] at hx
      split_ifs at hx
      · cases hx
      · exact h.held x hx
  single r r' hr hr' := h.single r r' (carries_of_rollback hr) (carries_of_rollback hr')

lemma lock (h : c.Once) (hr : c.read t = some r) : (c.lock t).Once where
  held x hx := by
    obtain rfl := Option.some.inj hx
    simp [hr]
  single r r' hr hr' := h.single r r' (carries_of_lock hr) (carries_of_lock hr')

/-- A row that is read stays so when a transaction commits. -/
lemma read_commit (h : c.Once) (hr : c.read u = some r) (t : τ) :
    (c.commit t).read u = some r := by
  rcases c with ⟨committed, - | ⟨w, v⟩⟩
  · exact hr
  · by_cases hw : w = t
    · subst hw
      cases v with
      | none    => exact absurd rfl (h.held _ rfl)
      | some r' =>
        have hsame : r' = r := h.single r' r (.inr ⟨w, rfl⟩) (carries_of_read hr)
        simp [Cell.commit, read, hsame]
    · rwa [commit_of_held hw rfl]

lemma committed_commit (h : c.Once) (hr : c.committed = some r) (t : τ) :
    (c.commit t).committed = some r := by
  rw [Cell.committed_commit]
  exact h.read_of_committed hr t

end Once

/-- Another transaction's end by a rollback changes nothing that is read. -/
lemma read_rollback_of_ne (hne : u ≠ t) : (c.rollback t).read u = c.read u := by
  rcases c with ⟨committed, - | ⟨w, v⟩⟩
  · rfl
  · by_cases hw : w = t
    · subst hw
      simp [rollback, read, hne.symm]
    · rw [rollback_of_held hw rfl]

end Cell

end Once

/-! ### Totals over the rows -/

section Total

variable {M : Type*} [AddCommGroup M] (g : ρ → M)

/-- The committed total. -/
def total (rows : List (Cell τ ρ)) : M := (rows.map fun c => g c.committed).sum

variable {g} in
/-- What is not committed is no part of the committed total. -/
lemma total_write {rows : List (Cell τ ρ)} {i : ℕ} {c : Cell τ ρ} (hc : rows[i]? = some c)
    (t : τ) (v : ρ) :
    total g (rows.modify i (·.write t v)) = total g rows := by
  have hsum := sum_map_modify (fun c : Cell τ ρ => g c.committed) (·.write t v) hc
  simpa [total, Cell.write] using hsum

variable {g} in
lemma total_append (rows : List (Cell τ ρ)) (c : Cell τ ρ) :
    total g (rows ++ [c]) = total g rows + g c.committed := by
  simp [total]

variable [DecidableEq τ]

variable {g} in
lemma total_lock {rows : List (Cell τ ρ)} {i : ℕ} {c : Cell τ ρ} (hc : rows[i]? = some c) (t : τ) :
    total g (rows.modify i (·.lock t)) = total g rows := by
  have hsum := sum_map_modify (fun c : Cell τ ρ => g c.committed) (·.lock t) hc
  simpa [total, Cell.lock, Cell.write] using hsum

/-- What a transaction has changed of the share of one row. -/
def Cell.change (c : Cell τ ρ) (t : τ) : M := g (c.read t) - g c.committed

/-- What a transaction has changed of the total. -/
def change (rows : List (Cell τ ρ)) (t : τ) : M := (rows.map (·.change g t)).sum

variable {g}

lemma Cell.change_of_free {c : Cell τ ρ} {t u : τ} (h : c.Free t) (hne : u ≠ t) :
    c.change g u = 0 := by
  rw [Cell.change, read_of_free h hne, sub_self]

@[simp] lemma Cell.change_write_self (c : Cell τ ρ) (t : τ) (v : ρ) :
    (c.write t v).change g t = g v - g c.committed := by
  rw [Cell.change, read_write_self]
  rfl

lemma Cell.change_write_of_ne {c : Cell τ ρ} {t u : τ} (hne : u ≠ t) (v : ρ) :
    (c.write t v).change g u = 0 := by
  rw [Cell.change, read_write_of_ne hne]
  exact sub_self _

lemma Cell.change_lock {c : Cell τ ρ} {t : τ} (h : c.Free t) (u : τ) :
    (c.lock t).change g u = c.change g u := by
  rw [Cell.change, read_lock h]
  rfl

@[simp] lemma Cell.change_commit_self (c : Cell τ ρ) (t : τ) : (c.commit t).change g t = 0 := by
  simp [Cell.change]

@[simp] lemma Cell.change_rollback_self (c : Cell τ ρ) (t : τ) :
    (c.rollback t).change g t = 0 := by
  simp [Cell.change]

/-- The changes of the others do not depend on how a transaction ends. -/
lemma Cell.change_commit_of_ne {c : Cell τ ρ} {t u : τ} (hne : u ≠ t) :
    (c.commit t).change g u = c.change g u := by
  rcases hc : c.held with - | ⟨w, v⟩
  · simp [Cell.commit, hc]
  · by_cases hw : w = t
    · subst hw
      simp [Cell.commit, Cell.change, Cell.read, hc, hne.symm]
    · rw [commit_of_held hw hc]

lemma Cell.change_rollback_of_ne {c : Cell τ ρ} {t u : τ} (hne : u ≠ t) :
    (c.rollback t).change g u = c.change g u := by
  rcases hc : c.held with - | ⟨w, v⟩
  · simp [Cell.rollback, hc]
  · by_cases hw : w = t
    · subst hw
      simp [Cell.rollback, Cell.change, Cell.read, hc, hne.symm]
    · rw [rollback_of_held hw hc]

variable {rows : List (Cell τ ρ)} {i : ℕ} {c : Cell τ ρ}

/-- A transaction that writes a row it holds, or that nobody holds, changes its total by the
difference. -/
lemma change_write (hc : rows[i]? = some c) (t : τ) (v : ρ) :
    change g (rows.modify i (·.write t v)) t = change g rows t + (g v - g (c.read t)) := by
  have hsum := sum_map_modify (fun c : Cell τ ρ => c.change g t) (·.write t v) hc
  simp only [Cell.change_write_self] at hsum
  rw [change, change, eq_sub_of_add_eq hsum, Cell.change]
  abel

/-- And it changes nothing of the totals of the others. -/
lemma change_write_of_ne (hc : rows[i]? = some c) {t u : τ} (hfree : c.Free t) (hne : u ≠ t)
    (v : ρ) : change g (rows.modify i (·.write t v)) u = change g rows u := by
  have hsum := sum_map_modify (fun c : Cell τ ρ => c.change g u) (·.write t v) hc
  rw [Cell.change_write_of_ne hne, Cell.change_of_free hfree hne] at hsum
  simpa [change] using hsum

/-- A lock alone changes nothing. -/
lemma change_lock (hc : rows[i]? = some c) {t : τ} (hfree : c.Free t) (u : τ) :
    change g (rows.modify i (·.lock t)) u = change g rows u := by
  have hsum := sum_map_modify (fun c : Cell τ ρ => c.change g u) (·.lock t) hc
  rw [Cell.change_lock hfree] at hsum
  simpa [change] using hsum

lemma change_append (c : Cell τ ρ) (t : τ) :
    change g (rows ++ [c]) t = change g rows t + c.change g t := by
  simp [change]

@[simp] lemma change_commit_self (rows : List (Cell τ ρ)) (t : τ) :
    change g (rows.map (Cell.commit t)) t = 0 := by
  simp [change, Function.comp_def]

@[simp] lemma change_rollback_self (rows : List (Cell τ ρ)) (t : τ) :
    change g (rows.map (Cell.rollback t)) t = 0 := by
  simp [change, Function.comp_def]

lemma change_commit_of_ne {t u : τ} (hne : u ≠ t) :
    change g (rows.map (Cell.commit t)) u = change g rows u := by
  simp [change, Function.comp_def, Cell.change_commit_of_ne hne]

lemma change_rollback_of_ne {t u : τ} (hne : u ≠ t) :
    change g (rows.map (Cell.rollback t)) u = change g rows u := by
  simp [change, Function.comp_def, Cell.change_rollback_of_ne hne]

/-- A commit adds what the transaction has changed. -/
lemma total_commit (rows : List (Cell τ ρ)) (t : τ) :
    total g (rows.map (Cell.commit t)) = total g rows + change g rows t := by
  induction rows with
  | nil => simp [total, change]
  | cons c rows ih =>
    simp only [total, change, List.map_cons, List.sum_cons, Cell.committed_commit] at ih ⊢
    rw [ih, Cell.change]
    abel

@[simp] lemma total_rollback (rows : List (Cell τ ρ)) (t : τ) :
    total g (rows.map (Cell.rollback t)) = total g rows := by
  simp [total, Function.comp_def]

end Total

end Support.RowLock
