import AgentPay.Support.Machine
import Mathlib.Data.Finset.Card
import Mathlib.Data.List.TakeWhile

/-!
# Calls that are answered once and for all

A machine some of whose steps are calls under a key. The first call under a key is answered with
what the machine makes of it then, and every later one with the same.
-/

namespace Support

variable {σ α κ ν : Type*} [DecidableEq κ]

/-- `find` is what the machine recorded under each key: a call records `fresh`, unless something is
recorded under its key, and no other step records anything. -/
structure Memo (step : σ → α → σ) (key : α → Option κ) (fresh : σ → α → ν)
    (find : σ → κ → Option ν) : Prop where
  find_step : ∀ s a k, find (step s a) k =
    if key a = some k then some ((find s k).getD (fresh s a)) else find s k

namespace Memo

variable {step : σ → α → σ} {key : α → Option κ} {fresh : σ → α → ν} {find : σ → κ → Option ν}
  {s : σ} {as : List α} {a : α} {k : κ}

/-- The steps before the first call under a key. -/
def before (key : α → Option κ) (k : κ) (as : List α) : List α :=
  as.takeWhile fun a => decide (key a ≠ some k)

/-- The first call under a key. -/
def first? (key : α → Option κ) (k : κ) (as : List α) : Option α :=
  as.find? fun a => decide (key a = some k)

lemma first?_eq_none : first? key k as = none ↔ k ∉ as.filterMap key := by
  simp [first?, List.mem_filterMap]

lemma key_of_first? (h : first? key k as = some a) : key a = some k :=
  of_decide_eq_true (List.find?_some h :)

/-- Without a call under the key all steps are before it. -/
lemma before_eq_self (h : first? key k as = none) : before key k as = as := by
  refine List.takeWhile_eq_self_iff.mpr fun a ha => decide_eq_true fun heq => ?_
  exact absurd (List.mem_filterMap.mpr ⟨a, ha, heq⟩) (first?_eq_none.mp h)

lemma before_cons_of_eq (h : key a = some k) : before key k (a :: as) = [] := by
  simp [before, h]

lemma before_cons_of_ne (h : key a ≠ some k) :
    before key k (a :: as) = a :: before key k as := by
  simp [before, h]

/-- The steps before the calls under two keys differ in how many keys they call. -/
lemma card_before_ne {k' : κ} (hne : k ≠ k') (hcalled : k ∈ as.filterMap key) :
    ((before key k as).filterMap key).toFinset.card ≠
      ((before key k' as).filterMap key).toFinset.card := by
  suffices h : ∀ A : Finset κ, k ∉ A → k' ∉ A →
      (A ∪ ((before key k as).filterMap key).toFinset).card ≠
        (A ∪ ((before key k' as).filterMap key).toFinset).card by
    simpa using h ∅ (Finset.notMem_empty k) (Finset.notMem_empty k')
  -- `A` is what has been called before `as`
  have hmore {A B : Finset κ} {j : κ} (hj : j ∉ A) (hB : j ∈ B) : A.card < (A ∪ B).card :=
    Finset.card_lt_card ⟨Finset.subset_union_left, fun hsub =>
      hj (hsub (Finset.mem_union_right A hB))⟩
  induction as with
  | nil => cases hcalled
  | cons a as ih =>
    intro A hA hA'
    by_cases hk : key a = some k
    · have hk' : key a ≠ some k' := fun h => hne (Option.some.inj (hk.symm.trans h))
      rw [before_cons_of_eq hk, before_cons_of_ne hk', List.filterMap_nil, List.toFinset_nil,
        Finset.union_empty]
      exact (hmore hA (by simp [hk])).ne
    by_cases hk' : key a = some k'
    · rw [before_cons_of_ne hk, before_cons_of_eq hk', List.filterMap_nil, List.toFinset_nil,
        Finset.union_empty]
      exact (hmore hA' (by simp [hk'])).ne'
    rw [before_cons_of_ne hk, before_cons_of_ne hk', List.filterMap_cons, List.filterMap_cons]
    rw [List.filterMap_cons] at hcalled
    cases hkey : key a with
    | none =>
      rw [hkey] at hcalled
      exact ih hcalled A hA hA'
    | some j =>
      rw [hkey] at hcalled hk hk'
      have hj : k ≠ j := fun h => hk (h ▸ rfl)
      have hj' : k' ≠ j := fun h => hk' (h ▸ rfl)
      simp only [List.toFinset_cons]
      rw [Finset.union_insert, Finset.union_insert, ← Finset.insert_union, ← Finset.insert_union]
      exact ih (List.mem_of_ne_of_mem hj hcalled) (insert j A) (by simp [hA, hj])
        (by simp [hA', hj'])

section

variable (h : Memo step key fresh find)

include h

/-- What is recorded stays. -/
lemma find_run_of_some {v : ν} (hk : find s k = some v) (as : List α) :
    find (Machine.run step s as) k = some v := by
  refine Machine.run_invariant (I := fun s => find s k = some v) (fun s a hs => ?_) hk as
  rw [h.find_step, hs]
  split_ifs <;> rfl

/-- What is recorded under a key is what the machine made of the first call. -/
theorem find_run (hk : find s k = none) (as : List α) :
    find (Machine.run step s as) k =
      (first? key k as).map (fresh (Machine.run step s (before key k as))) := by
  induction as generalizing s with
  | nil => exact hk
  | cons a as ih =>
    by_cases hcall : key a = some k
    · have hstep : find (step s a) k = some (fresh s a) := by
        rw [h.find_step, if_pos hcall, hk]
        rfl
      rw [Machine.run_cons, h.find_run_of_some hstep]
      simp [first?, before, hcall]
    · have hstep : find (step s a) k = none := by rw [h.find_step, if_neg hcall, hk]
      rw [Machine.run_cons, ih hstep]
      simp [first?, before, hcall]

/-- The answer to the next call under a key is what the machine made of the first. -/
theorem answer_run (hk : find s k = none) (as : List α) (a : α) :
    (find (Machine.run step s as) k).getD (fresh (Machine.run step s as) a) =
      fresh (Machine.run step s (before key k as)) ((first? key k as).getD a) := by
  rw [h.find_run hk]
  cases hfirst : first? key k as with
  | some a' => rfl
  | none => rw [before_eq_self hfirst]; rfl

/-- There is an execution for each key. -/
theorem size_run (size : σ → ℕ) (hsize : ∀ s a, size (step s a) =
      match key a with
      | some k => if (find s k).isSome then size s else size s + 1
      | none => size s)
    (hstart : ∀ k, find s k = none) (as : List α) :
    size (Machine.run step s as) = size s + (as.filterMap key).toFinset.card := by
  induction as using List.reverseRecOn with
  | nil => simp
  | append_singleton as a ih =>
    rw [Machine.run_concat, hsize, ih, List.filterMap_append]
    cases hkey : key a with
    | none => simp [hkey]
    | some k =>
      have hknown : (find (Machine.run step s as) k).isSome ↔ k ∈ as.filterMap key := by
        rw [h.find_run (hstart k), Option.isSome_map, Option.isSome_iff_ne_none, ne_eq,
          first?_eq_none, not_not]
      have hset : (as.filterMap key ++ [a].filterMap key).toFinset =
          insert k (as.filterMap key).toFinset := by
        ext k'
        simp [hkey]
      rw [hset]
      by_cases hk : k ∈ as.filterMap key
      · rw [Finset.insert_eq_of_mem (List.mem_toFinset.mpr hk)]
        exact if_pos (hknown.mpr hk)
      · rw [Finset.card_insert_of_notMem (mt List.mem_toFinset.mp hk), ← Nat.add_assoc]
        exact if_neg (mt hknown.mp hk)

end

end Memo

end Support
