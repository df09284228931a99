import Mathlib.Data.List.Nodup
import Mathlib.Algebra.BigOperators.Group.List.Basic
import Mathlib.Tactic.Abel

/-!
# Tables with a unique index

A table keeps its rows in insertion order; a row's id is its position, so an insert never reuses
an id. `key` is the column list under the unique index, `none` for a row that a partial index
leaves out. A table in which two rows share a key cannot be built.
-/

namespace Support

variable {ρ κ : Type*}

/-- The rows of a table, with the unique index on `key` as a field. -/
structure Table (ρ : Type*) {κ : Type*} (key : ρ → Option κ) where
  rows : List ρ
  unique : (rows.filterMap key).Nodup

/-! ### Lists indexed by id -/

/-- The id of the newest row that satisfies `p`. -/
def lastIdx? (p : ρ → Bool) : List ρ → Option ℕ
  | []      => none
  | r :: rs =>
    match lastIdx? p rs with
    | some i => some (i + 1)
    | none   => if p r then some 0 else none

lemma lastIdx?_eq_none {p : ρ → Bool} {rs : List ρ} :
    lastIdx? p rs = none ↔ ∀ r ∈ rs, p r = false := by
  induction rs with
  | nil => simp [lastIdx?]
  | cons r rs ih =>
    simp only [lastIdx?, List.mem_cons, forall_eq_or_imp]
    cases h : lastIdx? p rs with
    | some i =>
      have hne : ¬ ∀ r ∈ rs, p r = false := fun hall => by simp [ih.mpr hall] at h
      simp [hne]
    | none =>
      have hnone := ih.mp h
      simpa using fun _ : p r = false => hnone

lemma lastIdx?_eq_some {p : ρ → Bool} {rs : List ρ} {i : ℕ} :
    lastIdx? p rs = some i ↔
      (∃ r, rs[i]? = some r ∧ p r = true) ∧ ∀ j r, i < j → rs[j]? = some r → p r = false := by
  induction rs generalizing i with
  | nil => simp [lastIdx?]
  | cons r rs ih =>
    simp only [lastIdx?]
    cases h : lastIdx? p rs with
    | some k =>
      obtain ⟨⟨r₀, hr₀, hp₀⟩, hlast⟩ := ih.mp h
      constructor
      · rintro heq
        cases heq
        refine ⟨⟨r₀, by simpa using hr₀, hp₀⟩, fun j r' hj hr' => ?_⟩
        obtain ⟨j, rfl⟩ : ∃ n, j = n + 1 := ⟨j - 1, by omega⟩
        exact hlast j r' (by omega) (by simpa using hr')
      · rintro ⟨⟨r₁, hr₁, hp₁⟩, hlast₁⟩
        refine congrArg some ?_
        have hle : ¬ i < k + 1 := fun hlt => by
          have := hlast₁ (k + 1) r₀ hlt (by simpa using hr₀)
          simp [hp₀] at this
        have hge : ¬ k + 1 < i := fun hlt => by
          obtain ⟨j, rfl⟩ : ∃ j, i = j + 1 := ⟨i - 1, by omega⟩
          have := hlast j r₁ (by omega) (by simpa using hr₁)
          simp [hp₁] at this
        omega
    | none =>
      have hnone := lastIdx?_eq_none.mp h
      constructor
      · intro heq
        split_ifs at heq with hp
        cases heq
        refine ⟨⟨r, by simp, hp⟩, fun j r' hj hr' => ?_⟩
        obtain ⟨j, rfl⟩ : ∃ k, j = k + 1 := ⟨j - 1, by omega⟩
        exact hnone r' (List.mem_of_getElem? (by simpa using hr'))
      · rintro ⟨⟨r₁, hr₁, hp₁⟩, -⟩
        cases i with
        | zero =>
          simp only [List.getElem?_cons_zero, Option.some.injEq] at hr₁
          simp [hr₁, hp₁]
        | succ i =>
          have := hnone r₁ (List.mem_of_getElem? (by simpa using hr₁))
          simp [hp₁] at this

/-- Rewriting one row changes a sum by that row's share. -/
lemma sum_map_modify {M : Type*} [AddCommMonoid M] (g : ρ → M) (f : ρ → ρ) {rs : List ρ} {i : ℕ}
    {r : ρ} (h : rs[i]? = some r) :
    ((rs.modify i f).map g).sum + g r = (rs.map g).sum + g (f r) := by
  induction rs generalizing i with
  | nil => simp at h
  | cons a rs ih =>
    cases i with
    | zero =>
      simp only [List.getElem?_cons_zero, Option.some.injEq] at h
      subst h
      simp only [List.modify_zero_cons, List.map_cons, List.sum_cons]
      abel
    | succ i =>
      simp only [List.getElem?_cons_succ] at h
      have := ih h
      simp only [List.modify_succ_cons, List.map_cons, List.sum_cons]
      rw [add_assoc, this, add_assoc]

/-- Rewriting one row changes a count by that row. -/
lemma countP_modify (q : ρ → Bool) (f : ρ → ρ) {rs : List ρ} {i : ℕ} {r : ρ}
    (h : rs[i]? = some r) :
    (rs.modify i f).countP q + (if q r then 1 else 0) =
      rs.countP q + (if q (f r) then 1 else 0) := by
  induction rs generalizing i with
  | nil => simp at h
  | cons a rs ih =>
    cases i with
    | zero =>
      simp only [List.getElem?_cons_zero, Option.some.injEq] at h
      subst h
      simp only [List.modify_zero_cons, List.countP_cons]
      omega
    | succ i =>
      simp only [List.getElem?_cons_succ] at h
      have := ih h
      simp only [List.modify_succ_cons, List.countP_cons]
      omega

/-- A rewrite that leaves `key` alone leaves the keys alone. -/
lemma map_modify_of_eq {κ : Type*} {key : ρ → κ} {f : ρ → ρ} (hf : ∀ r, key (f r) = key r)
    {rs : List ρ} {i : ℕ} : (rs.modify i f).map key = rs.map key := by
  apply List.ext_getElem?
  intro j
  simp only [List.getElem?_map, List.getElem?_modify]
  by_cases hij : i = j <;> cases rs[j]? <;> simp [hij, hf]

/-- Rewriting the last row. -/
lemma modify_length_append (rows : List ρ) (r : ρ) (f : ρ → ρ) :
    (rows ++ [r]).modify rows.length f = rows ++ [f r] := by
  induction rows with
  | nil => rfl
  | cons a rows ih => simp [ih]

lemma mem_modify {f : ρ → ρ} {rs : List ρ} {i : ℕ} {r : ρ} (h : r ∈ rs.modify i f) :
    r ∈ rs ∨ ∃ r₀, rs[i]? = some r₀ ∧ r = f r₀ := by
  obtain ⟨j, hj⟩ := List.getElem?_of_mem h
  rw [List.getElem?_modify] at hj
  by_cases hij : i = j
  · subst hij
    simp only [if_true, Option.map_eq_map, Option.map_eq_some_iff] at hj
    obtain ⟨r₀, hr₀, rfl⟩ := hj
    exact Or.inr ⟨r₀, hr₀, rfl⟩
  · simp only [if_neg hij, Option.map_eq_map, Option.map_id_fun', id_eq] at hj
    exact Or.inl (List.mem_of_getElem? hj)

namespace Table

variable {key : ρ → Option κ}

/-- The table without rows. -/
def empty : Table ρ key := ⟨[], by simp⟩

/-- The row with a given id. -/
def get? (t : Table ρ key) (i : ℕ) : Option ρ := t.rows[i]?

/-- The id the next inserted row gets. -/
def nextId (t : Table ρ key) : ℕ := t.rows.length

/-- The id of the row a key names. -/
def idOf? [DecidableEq κ] (t : Table ρ key) (k : κ) : Option ℕ :=
  t.rows.findIdx? fun r => decide (key r = some k)

/-- The row a key names, with its id. -/
def find? [DecidableEq κ] (t : Table ρ key) (k : κ) : Option (ℕ × ρ) :=
  (t.idOf? k).bind fun i => (t.get? i).map fun r => (i, r)

/-- The row a key names. -/
def row? [DecidableEq κ] (t : Table ρ key) (k : κ) : Option ρ := (t.find? k).map (·.2)

/-- Rewrite the row with id `i`; the rewrite leaves the indexed columns alone. -/
def update (t : Table ρ key) (i : ℕ) (f : ρ → ρ) (hf : ∀ r, key (f r) = key r) : Table ρ key where
  rows := t.rows.modify i f
  unique := by
    have hkeys : (t.rows.modify i f).map key = t.rows.map key := map_modify_of_eq hf
    have hfilter : (t.rows.modify i f).filterMap key = t.rows.filterMap key := by
      simpa [List.filterMap_map, Function.comp_def] using congrArg (List.filterMap id) hkeys
    rw [hfilter]
    exact t.unique

/-- Rewrite every row that satisfies `p`. -/
def updateWhere (t : Table ρ key) (p : ρ → Bool) (f : ρ → ρ) (hf : ∀ r, key (f r) = key r) :
    Table ρ key where
  rows := t.rows.map fun r => if p r then f r else r
  unique := by
    have hkey : ∀ r, key (if p r then f r else r) = key r := by
      intro r
      split_ifs <;> simp [hf]
    simpa [List.filterMap_map, Function.comp_def, hkey] using t.unique

/-- No row of the table holds the key of `r`. -/
def Admits (t : Table ρ key) (r : ρ) : Prop := ∀ k ∈ key r, ∀ r' ∈ t.rows, key r' ≠ some k

instance [DecidableEq κ] (t : Table ρ key) (r : ρ) : Decidable (t.Admits r) :=
  match h : key r with
  | none   => isTrue fun k hk => by simp [h] at hk
  | some k =>
    decidable_of_iff (∀ r' ∈ t.rows, key r' ≠ some k) <| by
      simp [Admits, h]

/-- Append a row the unique index admits. -/
def append (t : Table ρ key) (r : ρ) (h : t.Admits r) : Table ρ key where
  rows := t.rows ++ [r]
  unique := by
    rw [List.filterMap_append, List.nodup_append]
    refine ⟨t.unique, ?_, ?_⟩
    · cases hr : key r <;> simp [hr]
    · intro a ha b hb hab
      subst hab
      obtain ⟨r', hr', hk⟩ := List.mem_filterMap.mp ha
      have hka : key r = some a := by simpa using hb
      exact h a hka r' hr' hk

/-- `INSERT`: `none` is the unique violation. -/
def insert? [DecidableEq κ] (t : Table ρ key) (r : ρ) : Option (Table ρ key) :=
  if h : t.Admits r then some (t.append r h) else none

/-! ### What the operations do to the rows -/

@[simp] lemma rows_empty : (empty : Table ρ key).rows = [] := rfl

@[simp] lemma rows_update (t : Table ρ key) (i : ℕ) (f : ρ → ρ) (hf : ∀ r, key (f r) = key r) :
    (t.update i f hf).rows = t.rows.modify i f := rfl

@[simp] lemma rows_updateWhere (t : Table ρ key) (p : ρ → Bool) (f : ρ → ρ)
    (hf : ∀ r, key (f r) = key r) :
    (t.updateWhere p f hf).rows = t.rows.map fun r => if p r then f r else r := rfl

@[simp] lemma rows_append (t : Table ρ key) (r : ρ) (h : t.Admits r) :
    (t.append r h).rows = t.rows ++ [r] := rfl

@[simp] lemma nextId_update (t : Table ρ key) (i : ℕ) (f : ρ → ρ)
    (hf : ∀ r, key (f r) = key r) : (t.update i f hf).nextId = t.nextId := by simp [nextId]

@[simp] lemma nextId_updateWhere (t : Table ρ key) (p : ρ → Bool) (f : ρ → ρ)
    (hf : ∀ r, key (f r) = key r) : (t.updateWhere p f hf).nextId = t.nextId := by simp [nextId]

lemma nextId_of_rows_append {t t' : Table ρ key} {r : ρ} (h : t'.rows = t.rows ++ [r]) :
    t'.nextId = t.nextId + 1 := by simp [nextId, h]

lemma ext_rows {t t' : Table ρ key} (h : t.rows = t'.rows) : t = t' := by
  cases t
  cases t'
  simp_all

/-- Rewriting a row to itself changes nothing. -/
lemma update_eq_self {t : Table ρ key} {i : ℕ} {r : ρ} (hi : t.get? i = some r) {f : ρ → ρ}
    (hf : ∀ r, key (f r) = key r) (hr : f r = r) : t.update i f hf = t := by
  apply ext_rows
  apply List.ext_getElem?
  intro j
  rw [rows_update, List.getElem?_modify]
  by_cases hij : i = j
  · subst hij
    have : t.rows[i]? = some r := hi
    simp [this, hr]
  · simp [hij]

/-- A rewrite is what it does to its row. -/
lemma update_congr {t : Table ρ key} {i : ℕ} {r : ρ} (hi : t.get? i = some r) {f g : ρ → ρ}
    {hf : ∀ r, key (f r) = key r} {hg : ∀ r, key (g r) = key r} (hfg : f r = g r) :
    t.update i f hf = t.update i g hg := by
  apply ext_rows
  rw [rows_update, rows_update]
  apply List.ext_getElem?
  intro j
  simp only [List.getElem?_modify]
  by_cases hij : i = j
  · subst hij
    have hi : t.rows[i]? = some r := hi
    simp [hi, hfg]
  · simp [hij]

lemma update_update {t : Table ρ key} {i : ℕ} {f g : ρ → ρ} {hf : ∀ r, key (f r) = key r}
    {hg : ∀ r, key (g r) = key r} :
    (t.update i f hf).update i g hg = t.update i (g ∘ f) fun r => (hg _).trans (hf r) := by
  apply ext_rows
  simp only [rows_update]
  apply List.ext_getElem?
  intro j
  by_cases hij : i = j
  · subst hij
    simp [Function.comp_def]
  · simp [hij]

lemma insert?_eq_some [DecidableEq κ] {t t' : Table ρ key} {r : ρ} :
    t.insert? r = some t' ↔ t.Admits r ∧ t'.rows = t.rows ++ [r] := by
  unfold insert?
  split_ifs with h
  · simp only [Option.some.injEq, h, true_and]
    constructor
    · rintro rfl
      rfl
    · intro hrows
      cases t'
      simp_all [append]
  · simp [h]

lemma insert?_eq_none [DecidableEq κ] {t : Table ρ key} {r : ρ} :
    t.insert? r = none ↔ ¬ t.Admits r := by
  unfold insert?
  split_ifs with h <;> simp [h]

/-- An insert is refused when a row holds the key. -/
lemma insert?_eq_none_iff [DecidableEq κ] {t : Table ρ key} {r : ρ} {k : κ} (hk : key r = some k) :
    t.insert? r = none ↔ ∃ r' ∈ t.rows, key r' = some k := by
  simp [insert?_eq_none, Admits, hk]

lemma map_key_update (t : Table ρ key) (i : ℕ) (f : ρ → ρ) (hf : ∀ r, key (f r) = key r) :
    (t.update i f hf).rows.map key = t.rows.map key := map_modify_of_eq hf

@[simp] lemma get?_empty (i : ℕ) : (empty : Table ρ key).get? i = none := by simp [get?]

lemma get?_update (t : Table ρ key) (i j : ℕ) (f : ρ → ρ) (hf : ∀ r, key (f r) = key r) :
    (t.update i f hf).get? j = if i = j then (t.get? j).map f else t.get? j := by
  by_cases h : i = j <;> simp [get?, h]

@[simp] lemma get?_update_self (t : Table ρ key) (i : ℕ) (f : ρ → ρ)
    (hf : ∀ r, key (f r) = key r) : (t.update i f hf).get? i = (t.get? i).map f := by
  simp [get?_update]

lemma get?_update_ne (t : Table ρ key) {i j : ℕ} (h : i ≠ j) (f : ρ → ρ)
    (hf : ∀ r, key (f r) = key r) : (t.update i f hf).get? j = t.get? j := by
  simp [get?_update, h]

lemma get?_of_rows_append {t t' : Table ρ key} {r : ρ} (h : t'.rows = t.rows ++ [r]) (i : ℕ) :
    t'.get? i = if i = t.nextId then some r else t.get? i := by
  simp only [get?, nextId, h]
  rcases lt_trichotomy i t.rows.length with hlt | heq | hgt
  · simp [List.getElem?_append_left hlt, hlt.ne]
  · simp [heq]
  · rw [List.getElem?_append_right (by omega)]
    rw [List.getElem?_eq_none (by simp; omega), List.getElem?_eq_none (by omega)]
    simp [hgt.ne']

lemma get?_lt {t : Table ρ key} {i : ℕ} {r : ρ} (h : t.get? i = some r) : i < t.nextId := by
  simp only [get?, List.getElem?_eq_some_iff] at h
  exact h.1

lemma mem_of_get? {t : Table ρ key} {i : ℕ} {r : ρ} (h : t.get? i = some r) : r ∈ t.rows :=
  List.mem_of_getElem? h

/-! ### Lookups by key -/

/-- The unique index: two ids whose rows share a key are the same id. -/
lemma id_unique {t : Table ρ key} {k : κ} {i j : ℕ} {r r' : ρ} (hi : t.get? i = some r)
    (hj : t.get? j = some r') (hr : key r = some k) (hr' : key r' = some k) : i = j := by
  have hinj : ∀ (rs : List ρ), (rs.filterMap key).Nodup → ∀ i j : ℕ, rs[i]? = some r →
      rs[j]? = some r' → i = j := by
    intro rs
    induction rs with
    | nil => intro _ i j h; simp at h
    | cons a rs ih =>
      intro hnd i j h₁ h₂
      cases hka : key a with
      | none =>
        rw [List.filterMap_cons_none hka] at hnd
        cases i with
        | zero => simp at h₁; simp [h₁, hr] at hka
        | succ i =>
          cases j with
          | zero => simp at h₂; simp [h₂, hr'] at hka
          | succ j => exact congrArg _ (ih hnd i j (by simpa using h₁) (by simpa using h₂))
      | some c =>
        rw [List.filterMap_cons_some hka, List.nodup_cons] at hnd
        have hout : ∀ (j : ℕ) (r₀ : ρ), rs[j]? = some r₀ → key r₀ = some k → c ≠ k := by
          rintro j r₀ h₀ hk₀ rfl
          exact hnd.1 (List.mem_filterMap.mpr ⟨r₀, List.mem_of_getElem? h₀, hk₀⟩)
        cases i with
        | zero =>
          simp only [List.getElem?_cons_zero, Option.some.injEq] at h₁
          subst h₁
          rw [hr, Option.some.injEq] at hka
          cases j with
          | zero => rfl
          | succ j => exact absurd hka.symm (hout j r' (by simpa using h₂) hr')
        | succ i =>
          cases j with
          | zero =>
            simp only [List.getElem?_cons_zero, Option.some.injEq] at h₂
            subst h₂
            rw [hr', Option.some.injEq] at hka
            exact absurd hka.symm (hout i r (by simpa using h₁) hr)
          | succ j => exact congrArg _ (ih hnd.2 i j (by simpa using h₁) (by simpa using h₂))
  exact hinj t.rows t.unique i j hi hj

lemma row_unique {t : Table ρ key} {k : κ} {r r' : ρ} (hr : r ∈ t.rows) (hr' : r' ∈ t.rows)
    (hk : key r = some k) (hk' : key r' = some k) : r = r' := by
  obtain ⟨i, hi⟩ := List.getElem?_of_mem hr
  obtain ⟨j, hj⟩ := List.getElem?_of_mem hr'
  have hij := id_unique (t := t) (i := i) (j := j) hi hj hk hk'
  subst hij
  simpa [hi] using hj

section Keyed

variable [DecidableEq κ]

/-- At most one row holds a key. -/
lemma length_filter_key (t : Table ρ key) (k : κ) :
    (t.rows.filter fun r => decide (key r = some k)).length ≤ 1 := by
  have hcount := List.nodup_iff_count_le_one.mp t.unique k
  rw [List.count, List.countP_filterMap] at hcount
  rw [← List.countP_eq_length_filter]
  refine le_of_eq_of_le (List.countP_congr fun r _ => ?_) hcount
  cases key r <;> simp

lemma idOf?_eq_none {t : Table ρ key} {k : κ} :
    t.idOf? k = none ↔ ∀ r ∈ t.rows, key r ≠ some k := by
  simp [idOf?, List.findIdx?_eq_none_iff]

lemma idOf?_get? {t : Table ρ key} {k : κ} {i : ℕ} (h : t.idOf? k = some i) :
    ∃ r, t.get? i = some r ∧ key r = some k := by
  obtain ⟨hi, hk, -⟩ := List.findIdx?_eq_some_iff_getElem.mp h
  exact ⟨t.rows[i], by simp [get?, hi], by simpa using hk⟩

lemma idOf?_eq_some {t : Table ρ key} {k : κ} {i : ℕ} :
    t.idOf? k = some i ↔ ∃ r, t.get? i = some r ∧ key r = some k := by
  refine ⟨idOf?_get?, ?_⟩
  rintro ⟨r, hr, hk⟩
  cases h : t.idOf? k with
  | none => exact absurd hk (idOf?_eq_none.mp h r (mem_of_get? hr))
  | some j =>
    obtain ⟨r', hr', hk'⟩ := idOf?_get? h
    rw [id_unique hr hr' hk hk']

lemma find?_eq_some {t : Table ρ key} {k : κ} {i : ℕ} {r : ρ} :
    t.find? k = some (i, r) ↔ t.get? i = some r ∧ key r = some k := by
  simp only [find?, Option.bind_eq_some_iff, Option.map_eq_some_iff, Prod.mk.injEq]
  constructor
  · rintro ⟨j, hj, r', hr', rfl, rfl⟩
    obtain ⟨r₀, hr₀, hk⟩ := idOf?_get? hj
    rw [hr', Option.some.injEq] at hr₀
    exact ⟨hr', hr₀ ▸ hk⟩
  · rintro ⟨hr, hk⟩
    exact ⟨i, idOf?_eq_some.mpr ⟨r, hr, hk⟩, r, hr, rfl, rfl⟩

lemma find?_eq_none {t : Table ρ key} {k : κ} :
    t.find? k = none ↔ ∀ r ∈ t.rows, key r ≠ some k := by
  rw [← idOf?_eq_none]
  cases h : t.idOf? k with
  | none => simp [find?, h]
  | some i =>
    obtain ⟨r, hr, -⟩ := idOf?_get? h
    simp [find?, h, hr]

lemma admits_iff_idOf? {t : Table ρ key} {r : ρ} {k : κ} (hk : key r = some k) :
    t.Admits r ↔ t.idOf? k = none := by
  rw [idOf?_eq_none]
  simp [Admits, hk]

/-- A row goes in under a free key. -/
lemma insert?_of_idOf?_none {t : Table ρ key} {r : ρ} {k : κ} (hk : key r = some k)
    (hid : t.idOf? k = none) : ∃ t', t.insert? r = some t' ∧ t'.rows = t.rows ++ [r] :=
  have hadmits := (admits_iff_idOf? hk).mpr hid
  ⟨t.append r hadmits, insert?_eq_some.mpr ⟨hadmits, rfl⟩, rfl⟩

/-! ### Rows by key -/

lemma row?_eq_some {t : Table ρ key} {k : κ} {r : ρ} :
    t.row? k = some r ↔ r ∈ t.rows ∧ key r = some k := by
  simp only [row?, Option.map_eq_some_iff, Prod.exists, find?_eq_some]
  constructor
  · rintro ⟨i, r', ⟨hi, hk⟩, rfl⟩
    exact ⟨mem_of_get? hi, hk⟩
  · rintro ⟨hr, hk⟩
    obtain ⟨i, hi⟩ := List.getElem?_of_mem hr
    exact ⟨i, r, ⟨hi, hk⟩, rfl⟩

lemma row?_eq_none {t : Table ρ key} {k : κ} :
    t.row? k = none ↔ ∀ r ∈ t.rows, key r ≠ some k := by
  simp [row?, find?_eq_none]

lemma admits_iff_row? {t : Table ρ key} {r : ρ} {k : κ} (hk : key r = some k) :
    t.Admits r ↔ t.row? k = none := by
  rw [row?_eq_none]
  simp [Admits, hk]

/-- A row is inserted under a key that was free. -/
lemma row?_of_insert? {t t' : Table ρ key} {r : ρ} (h : t.insert? r = some t') {k : κ}
    (hk : key r = some k) : t.row? k = none ∧ t'.rows = t.rows ++ [r] := by
  obtain ⟨hadmits, hrows⟩ := insert?_eq_some.mp h
  exact ⟨(admits_iff_row? hk).mp hadmits, hrows⟩

/-- A refused insert means the key is taken. -/
lemma row?_of_insert?_none {t : Table ρ key} {r : ρ} (h : t.insert? r = none) {k : κ}
    (hk : key r = some k) : (t.row? k).isSome := by
  rw [insert?_eq_none, admits_iff_row? hk] at h
  exact Option.isSome_iff_ne_none.mpr h

lemma row?_of_idOf? {t : Table ρ key} {k : κ} {i : ℕ} (h : t.idOf? k = some i) :
    ∃ r, t.row? k = some r ∧ t.get? i = some r := by
  obtain ⟨r, hr, hk⟩ := idOf?_get? h
  exact ⟨r, row?_eq_some.mpr ⟨mem_of_get? hr, hk⟩, hr⟩

lemma row?_of_idOf?_none {t : Table ρ key} {k : κ} (h : t.idOf? k = none) : t.row? k = none :=
  row?_eq_none.mpr (idOf?_eq_none.mp h)

/-- An appended row is found under its key, and hides nothing. -/
lemma row?_of_rows_append {t t' : Table ρ key} {r : ρ} (h : t'.rows = t.rows ++ [r]) (k : κ) :
    t'.row? k = if key r = some k then some r else t.row? k := by
  split_ifs with hk
  · rw [row?_eq_some]
    exact ⟨by simp [h], hk⟩
  · cases hrow : t.row? k with
    | none =>
      rw [row?_eq_none] at hrow ⊢
      intro r' hr'
      rw [h, List.mem_append, List.mem_singleton] at hr'
      rcases hr' with hr' | rfl
      · exact hrow r' hr'
      · exact hk
    | some r₀ =>
      rw [row?_eq_some] at hrow ⊢
      exact ⟨by simp [h, hrow.1], hrow.2⟩

/-- A rewrite reaches the lookup of the key its row holds. -/
lemma row?_update {t : Table ρ key} {i : ℕ} {r : ρ} {k : κ} (hi : t.get? i = some r)
    (hr : key r = some k) (f : ρ → ρ) (hf : ∀ r, key (f r) = key r) (k' : κ) :
    (t.update i f hf).row? k' = if k' = k then some (f r) else t.row? k' := by
  split_ifs with hk
  · subst hk
    rw [row?_eq_some]
    refine ⟨mem_of_get? (i := i) ?_, (hf r).trans hr⟩
    simp [hi]
  · cases hrow : t.row? k' with
    | none =>
      rw [row?_eq_none] at hrow ⊢
      intro r' hr'
      rcases mem_modify hr' with hmem | ⟨r₀, hr₀, rfl⟩
      · exact hrow r' hmem
      · rw [hf]
        exact hrow r₀ (List.mem_of_getElem? hr₀)
    | some r₀ =>
      rw [row?_eq_some] at hrow ⊢
      refine ⟨?_, hrow.2⟩
      obtain ⟨j, hj⟩ := List.getElem?_of_mem hrow.1
      have hij : i ≠ j := by
        rintro rfl
        have hrr : r = r₀ := by simpa [get?, hj] using hi.symm
        rw [hrr, hrow.2] at hr
        exact hk (Option.some.inj hr)
      refine mem_of_get? (i := j) ?_
      rw [get?_update_ne t hij]
      exact hj

lemma row?_updateWhere (t : Table ρ key) (p : ρ → Bool) (f : ρ → ρ)
    (hf : ∀ r, key (f r) = key r) (k : κ) :
    (t.updateWhere p f hf).row? k = (t.row? k).map fun r => if p r then f r else r := by
  have hkey : ∀ r, key (if p r then f r else r) = key r := by
    intro r
    split_ifs <;> simp [hf]
  cases hrow : t.row? k with
  | none =>
    rw [row?_eq_none] at hrow
    rw [Option.map_none, row?_eq_none]
    intro r' hr'
    simp only [rows_updateWhere, List.mem_map] at hr'
    obtain ⟨r₀, hr₀, rfl⟩ := hr'
    rw [hkey]
    exact hrow r₀ hr₀
  | some r₀ =>
    rw [row?_eq_some] at hrow
    rw [Option.map_some, row?_eq_some]
    refine ⟨?_, (hkey r₀).trans hrow.2⟩
    simp only [rows_updateWhere, List.mem_map]
    exact ⟨r₀, hrow.1, rfl⟩

end Keyed

end Table

end Support
