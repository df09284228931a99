import Mathlib.Data.List.Basic

/-!
# Labelled machines

A machine is a total step function `step : σ → α → σ`: the label `α` carries every choice the
environment makes, so a schedule is a list of labels. `Along P` holds of a schedule whose every
step meets `P` in the state the step starts from.
-/

namespace Support.Machine

variable {σ α : Type*} (step : σ → α → σ)

/-- The state a schedule ends in. -/
def run (s : σ) (as : List α) : σ := as.foldl step s

/-- Every step of the schedule meets `P`, judged in the state it starts from. -/
def Along (P : σ → α → Prop) : σ → List α → Prop
  | _, []      => True
  | s, a :: as => P s a ∧ Along P (step s a) as

@[simp] lemma run_nil (s : σ) : run step s [] = s := rfl

@[simp] lemma run_cons (s : σ) (a : α) (as : List α) :
    run step s (a :: as) = run step (step s a) as := rfl

lemma run_append (s : σ) (as bs : List α) :
    run step s (as ++ bs) = run step (run step s as) bs := by
  simp [run, List.foldl_append]

lemma run_concat (s : σ) (as : List α) (a : α) :
    run step s (as ++ [a]) = step (run step s as) a := by
  simp [run_append]

variable {step}

@[simp] lemma along_nil {P : σ → α → Prop} {s : σ} : Along step P s [] ↔ True := Iff.rfl

@[simp] lemma along_cons {P : σ → α → Prop} {s : σ} {a : α} {as : List α} :
    Along step P s (a :: as) ↔ P s a ∧ Along step P (step s a) as := Iff.rfl

instance Along.decidable {P : σ → α → Prop} [∀ s a, Decidable (P s a)] :
    ∀ (s : σ) (as : List α), Decidable (Along step P s as)
  | _, []      => isTrue trivial
  | s, a :: as => @instDecidableAnd _ _ _ (Along.decidable (step s a) as)

lemma along_append {P : σ → α → Prop} {s : σ} {as bs : List α} :
    Along step P s (as ++ bs) ↔ Along step P s as ∧ Along step P (run step s as) bs := by
  induction as generalizing s with
  | nil => simp
  | cons a as ih => simp [ih, and_assoc]

lemma along_of_forall {P : σ → α → Prop} (h : ∀ s a, P s a) (s : σ) (as : List α) :
    Along step P s as := by
  induction as generalizing s with
  | nil => trivial
  | cons a as ih => exact ⟨h s a, ih (step s a)⟩

lemma Along.mono {P Q : σ → α → Prop} (h : ∀ s a, P s a → Q s a) {s : σ} {as : List α}
    (hP : Along step P s as) : Along step Q s as := by
  induction as generalizing s with
  | nil => trivial
  | cons a as ih => exact ⟨h s a hP.1, ih hP.2⟩

/-- What every step keeps, every schedule keeps. -/
theorem run_invariant {I : σ → Prop} (hstep : ∀ s a, I s → I (step s a)) {s : σ} (hs : I s)
    (as : List α) : I (run step s as) := by
  induction as generalizing s with
  | nil => exact hs
  | cons a as ih => exact ih (hstep s a hs)

/-- The relational form: a preorder that every step respects holds from the first state of a
schedule to the last. -/
theorem run_relates {I : σ → Prop} {R : σ → σ → Prop} (hrefl : ∀ s, R s s)
    (htrans : ∀ s t u, R s t → R t u → R s u) (hI : ∀ s a, I s → I (step s a))
    (hstep : ∀ s a, I s → R s (step s a)) {s : σ} (hs : I s) (as : List α) :
    R s (run step s as) := by
  induction as generalizing s with
  | nil => exact hrefl s
  | cons a as ih => exact htrans _ _ _ (hstep s a hs) (ih (hI s a hs))

/-- What does not hold at the start of a schedule and holds at its end comes to hold at a step. -/
theorem exists_step {P : σ → Prop} {s : σ} (hs : ¬ P s) {as : List α} (h : P (run step s as)) :
    ∃ bs a cs, as = bs ++ a :: cs ∧ ¬ P (run step s bs) ∧ P (step (run step s bs) a) := by
  induction as generalizing s with
  | nil => exact absurd h hs
  | cons a as ih =>
    by_cases hnext : P (step s a)
    · exact ⟨[], a, as, rfl, hs, hnext⟩
    · obtain ⟨bs, b, cs, rfl, hbefore, hafter⟩ := ih hnext h
      exact ⟨a :: bs, b, cs, rfl, hbefore, hafter⟩

/-- What every step that meets `P` keeps, every schedule along `P` keeps. -/
theorem Along.invariant {P : σ → α → Prop} {I : σ → Prop}
    (hstep : ∀ s a, I s → P s a → I (step s a)) {s : σ} (hs : I s) {as : List α}
    (h : Along step P s as) : I (run step s as) := by
  induction as generalizing s with
  | nil => exact hs
  | cons a as ih => exact ih (hstep s a hs h.1) h.2

/-- What the steps that meet `P` do under an invariant, every step of a schedule along `P` does. -/
theorem Along.of_invariant {P Q : σ → α → Prop} {I : σ → Prop}
    (hI : ∀ s a, I s → P s a → I (step s a)) (hQ : ∀ s a, I s → P s a → Q s a) {s : σ} (hs : I s)
    {as : List α} (h : Along step P s as) : Along step Q s as := by
  induction as generalizing s with
  | nil => trivial
  | cons a as ih => exact ⟨hQ s a hs h.1, ih (hI s a hs h.1) h.2⟩

/-- Where `Q` and `R` agree on the steps that meet `P`, and `Q` keeps the invariant that says so,
they agree on the schedules along `P`. -/
theorem Along.congr {P Q R : σ → α → Prop} {I : σ → Prop}
    (hI : ∀ s a, I s → P s a → Q s a → I (step s a))
    (hiff : ∀ s a, I s → P s a → (Q s a ↔ R s a)) {s : σ} (hs : I s) {as : List α}
    (h : Along step P s as) : Along step Q s as ↔ Along step R s as := by
  induction as generalizing s with
  | nil => rfl
  | cons a as ih =>
    rw [along_cons, along_cons, ← hiff s a hs h.1]
    exact and_congr_right fun hQ => ih (hI s a hs h.1 hQ) h.2

end Support.Machine
