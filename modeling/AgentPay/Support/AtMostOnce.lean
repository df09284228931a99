import Mathlib.Algebra.BigOperators.Group.List.Basic
import Mathlib.Data.List.Nodup

/-!
# Calls that are executed at most once

A server keeps the calls it has executed and tells them apart by a key: a call under a key it knows
is not executed again. `tally` sums a measure of the executed calls that meet a predicate.
-/

namespace Support.AtMostOnce

variable {γ κ M : Type*} (key : γ → κ)

/-- A call under the key has been executed. -/
def Known (done : List γ) (k : κ) : Prop := k ∈ done.map key

@[simp] lemma known_concat {done : List γ} {c : γ} {k : κ} :
    Known key (done ++ [c]) k ↔ Known key done k ∨ k = key c := by
  simp [Known]

variable [DecidableEq κ]

instance (done : List γ) (k : κ) : Decidable (Known key done k) :=
  inferInstanceAs (Decidable (_ ∈ _))

/-- The server takes a call: if it is willing to, and does not know the key, it executes it. -/
def submit (done : List γ) (c : γ) (willing : Bool) : List γ :=
  if willing = true ∧ ¬ Known key done (key c) then done ++ [c] else done

variable {key} {done : List γ} {c : γ} {willing : Bool} {k : κ}

lemma submit_new (hwilling : willing = true) (hnew : ¬ Known key done (key c)) :
    submit key done c willing = done ++ [c] := if_pos ⟨hwilling, hnew⟩

lemma submit_not (h : ¬ (willing = true ∧ ¬ Known key done (key c))) :
    submit key done c willing = done := if_neg h

/-- What is known stays known. -/
lemma Known.submit (h : Known key done k) : Known key (submit key done c willing) k := by
  rw [AtMostOnce.submit]
  split_ifs
  · exact (known_concat key).mpr (.inl h)
  · exact h

/-- A call that the server is willing to take is known afterwards. -/
lemma known_submit (h : willing = true ∨ Known key done (key c)) :
    Known key (submit key done c willing) (key c) := by
  by_cases hknown : Known key done (key c)
  · exact hknown.submit
  · rw [submit_new (h.resolve_right hknown) hknown]
    exact (known_concat key).mpr (.inr rfl)

/-- No key is executed twice. -/
lemma nodup_submit (h : (done.map key).Nodup) :
    ((submit key done c willing).map key).Nodup := by
  rw [submit]
  split_ifs with hnew
  · rw [List.map_append]
    refine List.nodup_append.mpr ⟨h, List.nodup_singleton _, ?_⟩
    rintro k hk k' hk' rfl
    rw [List.map_singleton, List.mem_singleton] at hk'
    exact hnew.2 (hk' ▸ hk)
  · exact h

/-- What is executed holds of the calls from before and of the call that is taken. -/
lemma forall_submit {P : γ → Prop} (h : ∀ d ∈ done, P d) (hc : P c) :
    ∀ d ∈ submit key done c willing, P d := by
  intro d hd
  rw [submit] at hd
  split_ifs at hd
  · rcases List.mem_append.mp hd with hold | hnew
    · exact h d hold
    · rw [List.mem_singleton.mp hnew]
      exact hc
  · exact h d hd

/-! ### Sums over the executed calls -/

section Tally

variable [AddCommMonoid M] (f : γ → M) (P Q : γ → Prop) [DecidablePred P] [DecidablePred Q]

/-- The sum of `f` over the calls that meet `P`. -/
def tally (done : List γ) : M := (done.map fun c => if P c then f c else 0).sum

@[simp] lemma tally_nil : tally f P [] = 0 := rfl

@[simp] lemma tally_cons : tally f P (c :: done) = (if P c then f c else 0) + tally f P done := by
  simp [tally]

lemma tally_concat : tally f P (done ++ [c]) = tally f P done + if P c then f c else 0 := by
  simp [tally]

variable {P Q}

lemma tally_congr (h : ∀ c ∈ done, P c ↔ Q c) : tally f P done = tally f Q done := by
  rw [tally, tally]
  refine congrArg List.sum (List.map_congr_left fun c hc => ?_)
  simp [h c hc]

lemma tally_filter : tally f P (done.filter fun c => decide (Q c)) =
    tally f (fun c => P c ∧ Q c) done := by
  induction done with
  | nil => rfl
  | cons c done ih =>
    by_cases hQ : Q c
    · simp [hQ, ih]
    · simp [hQ, ih]

/-- A sum splits along a second predicate. -/
lemma tally_split : tally f P done =
    tally f (fun c => P c ∧ Q c) done + tally f (fun c => P c ∧ ¬ Q c) done := by
  induction done with
  | nil => simp
  | cons c done ih =>
    rw [tally_cons, tally_cons, tally_cons, ih]
    by_cases hP : P c
    · by_cases hQ : Q c
      · simp [hP, hQ, add_assoc]
      · simp [hP, hQ, add_left_comm]
    · simp [hP]

/-- A call that comes to meet the predicate adds its own measure, since no other call has its
key. -/
lemma tally_record (hnodup : (done.map key).Nodup) (hc : c ∈ done) (hnot : ¬ P c) :
    tally f (fun d => P d ∨ key d = key c) done = tally f P done + f c := by
  induction done with
  | nil => cases hc
  | cons d done ih =>
    rw [List.map_cons, List.nodup_cons] at hnodup
    obtain ⟨hd, hnodup⟩ := hnodup
    rw [tally_cons, tally_cons]
    rcases List.mem_cons.mp hc with rfl | hc
    · have hothers : tally f (fun d => P d ∨ key d = key c) done = tally f P done := by
        apply tally_congr
        intro e he
        have hne : key e ≠ key c := fun heq => hd (heq ▸ List.mem_map_of_mem he)
        simp [hne]
      rw [hothers]
      simp [hnot, add_comm]
    · have hne : key d ≠ key c := fun heq => hd (heq ▸ List.mem_map_of_mem hc)
      rw [ih hnodup hc]
      simp [hne, add_assoc]

end Tally

end Support.AtMostOnce
