import Mathlib.Algebra.BigOperators.Group.Finset.Piecewise
import Mathlib.Algebra.BigOperators.Group.List.Basic

/-!
# Sums over rows that are linked

Rows in a list, and indices that link them by position. Where every row is linked by exactly one
index, a sum over the rows is a sum over the indices.
-/

namespace Support

variable {ι α M : Type*} [AddCommMonoid M]

/-- Every position below `n` is linked by one index of `s`, and by no other index. -/
def Linked (s : Finset ι) (link : ι → Option ℕ) (n : ℕ) : Prop :=
  ∀ r < n, ∃ i ∈ s, ∀ j, link j = some r ↔ j = i

lemma Linked.mono {s : Finset ι} {link : ι → Option ℕ} {m n : ℕ} (h : Linked s link n)
    (hmn : m ≤ n) : Linked s link m :=
  fun r hr => h r (hr.trans_le hmn)

/-- What one index contributes once a row is appended. -/
lemma elim_concat (link : Option ℕ) (rows : List α) (a : α) (g : α → M) :
    (link.bind fun r => (rows ++ [a])[r]?).elim 0 g =
      (link.bind fun r => rows[r]?).elim 0 g + if link = some rows.length then g a else 0 := by
  cases link with
  | none => simp
  | some r =>
    rcases lt_trichotomy r rows.length with hlt | rfl | hgt
    · simp [List.getElem?_append_left hlt, hlt.ne]
    · simp
    · have hout : (rows ++ [a])[r]? = none := by
        rw [List.getElem?_eq_none_iff, List.length_append, List.length_singleton]
        exact hgt
      simp [hout, List.getElem?_eq_none hgt.le, hgt.ne']

/-- The sum over the rows, index by index. -/
theorem Linked.sum {s : Finset ι} {link : ι → Option ℕ} {rows : List α}
    (h : Linked s link rows.length) (g : α → M) :
    (rows.map g).sum = ∑ i ∈ s, ((link i).bind fun r => rows[r]?).elim 0 g := by
  classical
  induction rows using List.reverseRecOn with
  | nil =>
    refine (Finset.sum_eq_zero fun i _ => ?_).symm
    cases link i <;> rfl
  | append_singleton rows a ih =>
    rw [List.length_append, List.length_singleton] at h
    obtain ⟨i, hi, hlink⟩ := h rows.length (Nat.lt_succ_self _)
    simp only [elim_concat, Finset.sum_add_distrib, hlink, Finset.sum_ite_eq', if_pos hi]
    rw [List.map_append, List.sum_append, ih (h.mono (Nat.le_succ _)), List.map_singleton,
      List.sum_singleton]

end Support
