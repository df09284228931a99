import AgentPay.Support.Table
import Mathlib.Data.List.Induction

/-!
# The rows of an owner

`part own l` is the part of a list that meets `own`: its rows in their order, each with its
position. What a search, a sum or a selection reads of the list it reads of the part, and a write
to a row of one owner leaves the part of every other owner as it is.
-/

namespace Support

variable {ρ β : Type*} {own own' : ρ → Bool} {l : List ρ}

/-- The rows that meet `own`, each with its position. -/
def part (own : ρ → Bool) (l : List ρ) : List (ρ × ℕ) := l.zipIdx.filter fun x => own x.1

lemma mem_part {x : ρ × ℕ} : x ∈ part own l ↔ l[x.2]? = some x.1 ∧ own x.1 = true := by
  rw [part, List.mem_filter, List.mem_zipIdx_iff_getElem?]

lemma part_congr (h : ∀ r ∈ l, own r = own' r) : part own l = part own' l := by
  apply List.filter_congr
  intro x hx
  exact h x.1 (List.fst_mem_of_mem_zipIdx hx)

/-! ### Writes -/

lemma part_append (own : ρ → Bool) (l : List ρ) (r : ρ) :
    part own (l ++ [r]) = part own l ++ if own r then [(r, l.length)] else [] := by
  rw [part, List.zipIdx_append, List.filter_append, part]
  cases h : own r <;> simp [h]

/-- Row `i` of a part rewritten. -/
def rewrite (i : ℕ) (f : ρ → ρ) (x : ρ × ℕ) : ρ × ℕ := if x.2 = i then (f x.1, x.2) else x

lemma zipIdx_modify (l : List ρ) (i : ℕ) (f : ρ → ρ) :
    (l.modify i f).zipIdx = l.zipIdx.map (rewrite i f) := by
  apply List.ext_getElem?
  intro j
  rw [List.getElem?_zipIdx, List.getElem?_map, List.getElem?_zipIdx, List.getElem?_modify]
  cases l[j]? with
  | none => simp
  | some r =>
    by_cases hij : i = j
    · simp [hij, rewrite]
    · simp [hij, rewrite, Ne.symm hij]

/-- A rewrite that leaves the owners alone. -/
lemma part_modify {f : ρ → ρ} (hf : ∀ r, own (f r) = own r) (l : List ρ) (i : ℕ) :
    part own (l.modify i f) = (part own l).map (rewrite i f) := by
  rw [part, zipIdx_modify, List.filter_map, part]
  congr 1
  apply List.filter_congr
  intro x _
  simp only [Function.comp_apply, rewrite]
  split_ifs
  · exact hf x.1
  · rfl

/-- A rewrite of a row that is not in the part. -/
lemma part_modify_of_not {f : ρ → ρ} (hf : ∀ r, own (f r) = own r) {i : ℕ}
    (hi : ∀ r, l[i]? = some r → own r = false) : part own (l.modify i f) = part own l := by
  rw [part_modify hf]
  conv_rhs => rw [← List.map_id (part own l)]
  apply List.map_congr_left
  intro x hx
  obtain ⟨hrow, hown⟩ := mem_part.mp hx
  have hne : x.2 ≠ i := by
    rintro rfl
    rw [hi x.1 hrow] at hown
    cases hown
  simp [rewrite, hne]

/-! ### Reads -/

/-- A search for rows of the part. -/
lemma findIdx?_eq_part {q : ρ → Bool} (hq : ∀ r ∈ l, q r = true → own r = true) :
    l.findIdx? q = ((part own l).find? fun x => q x.1).map Prod.snd := by
  have hfind : ∀ (l : List ρ) (n : ℕ), (∀ r ∈ l, q r = true → own r = true) →
      (l.findIdx? q).map (· + n) =
        ((l.zipIdx n).find? fun x => own x.1 && q x.1).map Prod.snd := by
    intro l
    induction l with
    | nil => simp
    | cons r l ih =>
      intro n hq
      have htail := ih (n + 1) fun r hr => hq r (List.mem_cons_of_mem _ hr)
      rw [List.findIdx?_cons, List.zipIdx_cons, List.find?_cons]
      cases hr : q r with
      | true => simp [hq r List.mem_cons_self hr]
      | false =>
        rw [Bool.and_false, ← htail]
        simp [Option.map_map, Function.comp_def, add_assoc, add_comm 1 n]
  rw [part, List.find?_filter]
  simpa using hfind l 0 hq

/-- A sum to which the part alone contributes. -/
lemma sum_eq_part {M : Type*} [AddMonoid M] {g : ρ → M} (hg : ∀ r ∈ l, own r = false → g r = 0) :
    (l.map g).sum = ((part own l).map fun x => g x.1).sum := by
  have hsum : ∀ (l : List ρ) (n : ℕ), (∀ r ∈ l, own r = false → g r = 0) →
      (l.map g).sum = (((l.zipIdx n).filter fun x => own x.1).map fun x => g x.1).sum := by
    intro l
    induction l with
    | nil => simp
    | cons r l ih =>
      intro n hg
      rw [List.zipIdx_cons, List.filter_cons, List.map_cons, List.sum_cons,
        ih (n + 1) fun r hr => hg r (List.mem_cons_of_mem _ hr)]
      cases hr : own r with
      | true => simp
      | false => simp [hg r List.mem_cons_self hr]
  exact hsum l 0 hg

/-- A selection by position, of rows of the part. -/
lemma filterMap_range_eq_part {g : ρ × ℕ → Option β}
    (hg : ∀ r ∈ l, own r = false → ∀ i, g (r, i) = none) :
    ((List.range l.length).filterMap fun i => l[i]?.bind fun r => g (r, i)) =
      (part own l).filterMap g := by
  have hzip : ((List.range l.length).filterMap fun i => l[i]?.bind fun r => g (r, i)) =
      l.zipIdx.filterMap g := by
    clear hg
    induction l using List.reverseRecOn with
    | nil => rfl
    | append_singleton l r ih =>
      rw [List.length_append, List.length_singleton, List.range_succ, List.filterMap_append,
        List.zipIdx_append, List.filterMap_append, ← ih]
      congr 1
      · apply List.filterMap_congr
        intro i hi
        rw [List.getElem?_append_left (List.mem_range.mp hi)]
      · simp [List.filterMap_cons]
  rw [hzip, part, List.filterMap_filter]
  apply List.filterMap_congr
  intro x hx
  cases hown : own x.1 with
  | true => simp
  | false => simp [hg x.1 (List.fst_mem_of_mem_zipIdx hx) hown]

end Support
