import Mathlib.Data.List.Nodup
import Mathlib.Logic.Function.Iterate

/-!
# Batches that stop at the first failure

A loop runs its body over the items one after the other and ends at the first one that raises. What
that item has written by then stays. `Isolates` says what such a body does to an observation of the
items, and `Isolates.drop_iff` when the others are left as if a failing item had not been there.
`Drains` is a body that serves whatever is ready, and `Drains.rounds` says how far rounds of a
bounded number of items get with a queue. `batch_refines` is about a body that carries more along.
-/

namespace Support

variable {σ τ α β ε ω : Type*}

/-- The loop: how many items it has served, or the error it ended with, and the state it leaves. -/
def batch (body : σ → α → Except ε β × σ) (s : σ) : List α → Except ε ℕ × σ
  | []      => (.ok 0, s)
  | a :: l =>
    match body s a with
    | (.error e, s') => (.error e, s')
    | (.ok _, s')    =>
      let (served, s'') := batch body s' l
      (served.map (· + 1), s'')

/-- An item or a loop that ends with an error. -/
def Raises (r : Except ε β × σ) : Prop := ∃ e, r.1 = .error e

lemma raises_iff {r : Except ε β × σ} : Raises r ↔ ∃ e s, r = (.error e, s) := by
  obtain ⟨result, s⟩ := r
  simp [Raises]

lemma not_raises_iff {r : Except ε β × σ} : ¬ Raises r ↔ ∃ b s, r = (.ok b, s) := by
  obtain ⟨_ | b, s⟩ := r
  · simp [Raises]
  · simp [Raises]

variable {body : σ → α → Except ε β × σ} {s : σ} {a : α} {l m : List α}

@[simp] lemma batch_nil : batch body s [] = (.ok 0, s) := rfl

/-- The loop ends at an item that raises. -/
lemma batch_cons_of_raises (h : Raises (body s a)) :
    Raises (batch body s (a :: l)) ∧ (batch body s (a :: l)).2 = (body s a).2 := by
  obtain ⟨e, s', h⟩ := raises_iff.mp h
  rw [batch, h]
  exact ⟨⟨e, rfl⟩, rfl⟩

/-- It goes on after any other. -/
lemma batch_cons_of_not_raises (h : ¬ Raises (body s a)) :
    (Raises (batch body s (a :: l)) ↔ Raises (batch body (body s a).2 l)) ∧
      (batch body s (a :: l)).2 = (batch body (body s a).2 l).2 := by
  obtain ⟨b, s', h⟩ := not_raises_iff.mp h
  rw [batch, h]
  refine ⟨?_, rfl⟩
  cases hrest : (batch body s' l).1 with
  | error e => simp [Raises, hrest, Except.map]
  | ok n    => simp [Raises, hrest, Except.map]

lemma batch_append_of_raises (h : Raises (batch body s l)) :
    Raises (batch body s (l ++ m)) ∧ (batch body s (l ++ m)).2 = (batch body s l).2 := by
  induction l generalizing s with
  | nil => exact absurd h (not_raises_iff.mpr ⟨0, s, rfl⟩)
  | cons a l ih =>
    rw [List.cons_append]
    by_cases ha : Raises (body s a)
    · obtain ⟨hraises, hstate⟩ := batch_cons_of_raises (l := l ++ m) ha
      exact ⟨hraises, hstate.trans (batch_cons_of_raises ha).2.symm⟩
    · obtain ⟨hraises, hstate⟩ := batch_cons_of_not_raises (l := l) ha
      obtain ⟨hraises', hstate'⟩ := batch_cons_of_not_raises (l := l ++ m) ha
      obtain ⟨hih, hleft⟩ := ih (hraises.mp h)
      exact ⟨hraises'.mpr hih, by rw [hstate', hstate, hleft]⟩

lemma batch_append_of_not_raises (h : ¬ Raises (batch body s l)) :
    (Raises (batch body s (l ++ m)) ↔ Raises (batch body (batch body s l).2 m)) ∧
      (batch body s (l ++ m)).2 = (batch body (batch body s l).2 m).2 := by
  induction l generalizing s with
  | nil => exact ⟨Iff.rfl, rfl⟩
  | cons a l ih =>
    have ha : ¬ Raises (body s a) := fun ha => h (batch_cons_of_raises ha).1
    obtain ⟨hraises, hstate⟩ := batch_cons_of_not_raises (l := l) ha
    obtain ⟨hraises', hstate'⟩ := batch_cons_of_not_raises (l := l ++ m) ha
    obtain ⟨hih, hleft⟩ := ih fun hrest => h (hraises.mpr hrest)
    rw [List.cons_append, hraises', hstate', hstate]
    exact ⟨hih, hleft⟩

/-- The item a failing loop ends at. -/
lemma Raises.split (h : Raises (batch body s l)) :
    ∃ pre a post, l = pre ++ a :: post ∧ ¬ Raises (batch body s pre) ∧
      Raises (body (batch body s pre).2 a) ∧
      (batch body s l).2 = (body (batch body s pre).2 a).2 := by
  induction l generalizing s with
  | nil => exact absurd h (not_raises_iff.mpr ⟨0, s, rfl⟩)
  | cons a l ih =>
    by_cases ha : Raises (body s a)
    · exact ⟨[], a, l, rfl, not_raises_iff.mpr ⟨0, s, rfl⟩, ha, (batch_cons_of_raises ha).2⟩
    · obtain ⟨hraises, hstate⟩ := batch_cons_of_not_raises (l := l) ha
      obtain ⟨pre, b, post, rfl, hpre, hb, hleft⟩ := ih (hraises.mp h)
      obtain ⟨hraises', hstate'⟩ := batch_cons_of_not_raises (l := pre) ha
      refine ⟨a :: pre, b, post, rfl, fun hpre' => hpre (hraises'.mp hpre'), ?_, ?_⟩
      · rwa [hstate']
      · rw [hstate, hstate', hleft]

/-- A loop that carries more along does what the plain one does, when its body does. -/
lemma batch_refines {body' : τ → α → Except ε β × τ} (view : τ → σ) {I : τ → Prop}
    (h : ∀ t a, I t →
      body (view t) a = ((body' t a).1, view (body' t a).2) ∧ I (body' t a).2)
    {t : τ} (ht : I t) (l : List α) :
    batch body (view t) l = ((batch body' t l).1, view (batch body' t l).2) ∧
      I (batch body' t l).2 := by
  induction l generalizing t with
  | nil => exact ⟨rfl, ht⟩
  | cons a l ih =>
    obtain ⟨heq, hkeeps⟩ := h t a ht
    rw [batch, batch, heq]
    generalize body' t a = r at hkeeps ⊢
    obtain ⟨_ | b, t'⟩ := r
    · exact ⟨rfl, hkeeps⟩
    · obtain ⟨hrest, hkept⟩ := ih hkeeps
      simp only [hrest]
      exact ⟨trivial, hkept⟩

/-! ### Dropping an item -/

/-- A body that serves items which are `ready`: it serves an item by making it unready, an item it
fails on is observed as before, and it never makes another item ready or unready. -/
structure Isolates (body : σ → α → Except ε β × σ) (ready : σ → α → Prop) (observe : σ → α → ω) :
    Prop where
  raised : ∀ s a, Raises (body s a) → ready s a → ∀ b, observe (body s a).2 b = observe s b
  served : ∀ s a, ¬ Raises (body s a) → ¬ ready (body s a).2 a
  others : ∀ s a b, a ≠ b → (ready (body s a).2 b ↔ ready s b)
  observed : ∀ s s' a, observe s a = observe s' a → (ready s a ↔ ready s' a)

namespace Isolates

variable {ready : σ → α → Prop} {observe : σ → α → ω} (h : Isolates body ready observe)

include h

/-- A loop leaves the items it is not given as ready as they were. -/
lemma batch_others {b : α} (hb : b ∉ l) : ready (batch body s l).2 b ↔ ready s b := by
  induction l generalizing s with
  | nil => rfl
  | cons a l ih =>
    obtain ⟨hne, hnot⟩ : b ≠ a ∧ b ∉ l := by simpa using hb
    by_cases ha : Raises (body s a)
    · rw [(batch_cons_of_raises ha).2]
      exact h.others s a b (Ne.symm hne)
    · rw [(batch_cons_of_not_raises ha).2, ih hnot]
      exact h.others s a b (Ne.symm hne)

/-- A loop that ends without an error has served each of its items. -/
lemma batch_served (hl : l.Nodup) (hdone : ¬ Raises (batch body s l)) {b : α} (hb : b ∈ l) :
    ¬ ready (batch body s l).2 b := by
  induction l generalizing s with
  | nil => cases hb
  | cons a l ih =>
    obtain ⟨hnot, hl⟩ := List.nodup_cons.mp hl
    have ha : ¬ Raises (body s a) := fun ha => hdone (batch_cons_of_raises ha).1
    obtain ⟨hraises, hstate⟩ := batch_cons_of_not_raises (l := l) ha
    rw [hstate]
    rcases List.mem_cons.mp hb with rfl | hb
    · rw [h.batch_others hnot]
      exact h.served s b ha
    · exact ih hl (fun hrest => hdone (hraises.mpr hrest)) hb

/-- The others are left as if an item that fails had not been among them exactly when an item
before it fails, none comes after it, or the next one fails as well. -/
theorem drop_iff {pre post : List α} (hnodup : (pre ++ a :: post).Nodup)
    (hready : ∀ b ∈ pre ++ a :: post, ready s b) (ha : Raises (body (batch body s pre).2 a)) :
    (∀ b ∈ pre ++ post,
        observe (batch body s (pre ++ a :: post)).2 b = observe (batch body s (pre ++ post)).2 b) ↔
      Raises (batch body s pre) ∨ post = [] ∨
        ∃ next rest, post = next :: rest ∧ Raises (body (batch body s pre).2 next) := by
  by_cases hpre : Raises (batch body s pre)
  · have hleft := (batch_append_of_raises (m := a :: post) hpre).2
    have hright := (batch_append_of_raises (m := post) hpre).2
    simp [hpre, hleft, hright]
  obtain ⟨-, hdisjoint⟩ := List.nodup_append.mp hnodup
  have hfresh : ∀ b ∈ a :: post, b ∉ pre := fun b hb hb' => hdisjoint.2 b hb' b hb rfl
  have hstill : ∀ b ∈ a :: post, ready (batch body s pre).2 b := fun b hb =>
    (h.batch_others (hfresh b hb)).mpr (hready b (List.mem_append_right pre hb))
  have hleft : ∀ b, observe (batch body s (pre ++ a :: post)).2 b =
      observe (batch body s pre).2 b := fun b => by
    rw [(batch_append_of_not_raises hpre).2, (batch_cons_of_raises ha).2]
    exact h.raised _ a ha (hstill a List.mem_cons_self) b
  have hright := (batch_append_of_not_raises (m := post) hpre).2
  cases post with
  | nil => simp [hleft]
  | cons next rest =>
    simp only [hpre, false_or, List.cons_ne_nil, List.cons.injEq]
    constructor
    · intro hsame
      by_contra hnext
      have hnext : ¬ Raises (body (batch body s pre).2 next) := fun hraises =>
        hnext ⟨next, rest, ⟨rfl, rfl⟩, hraises⟩
      have hnot : next ∉ rest := (List.nodup_cons.mp (List.nodup_cons.mp hdisjoint.1).2).1
      -- without the failing item the next one is served
      have hserved : ¬ ready (batch body s (pre ++ next :: rest)).2 next := by
        rw [hright, (batch_cons_of_not_raises hnext).2, h.batch_others hnot]
        exact h.served _ next hnext
      have hmem : next ∈ pre ++ next :: rest := List.mem_append_right pre List.mem_cons_self
      apply hserved
      rw [← h.observed _ _ next (hsame next hmem), h.observed _ _ next (hleft next)]
      exact hstill next (List.mem_cons_of_mem a List.mem_cons_self)
    · rintro ⟨_, _, ⟨rfl, rfl⟩, hraises⟩ b -
      rw [hleft, hright, (batch_cons_of_raises hraises).2]
      exact (h.raised _ next hraises (hstill next (List.mem_cons_of_mem a List.mem_cons_self))
        b).symm

end Isolates

/-! ### Draining -/

/-- What is left of a filtered list when its first `limit` elements are out. -/
lemma filter_eq_drop (hl : l.Nodup) {p q : α → Bool} (limit : ℕ)
    (h : ∀ a ∈ l, a ∈ l.filter q ↔ a ∈ l.filter p ∧ a ∉ (l.filter p).take limit) :
    l.filter q = (l.filter p).drop limit := by
  classical
  have hnodup : (l.filter p).Nodup := hl.filter _
  have hfilter : l.filter q =
      (l.filter p).filter fun a => decide (a ∉ (l.filter p).take limit) := by
    rw [List.filter_filter]
    refine List.filter_congr fun a ha => ?_
    have hiff := h a ha
    rw [List.mem_filter, List.mem_filter] at hiff
    rw [Bool.eq_iff_iff, Bool.and_eq_true, decide_eq_true_eq]
    tauto
  rw [hfilter]
  generalize l.filter p = queue at hnodup
  nth_rewrite 1 [← List.take_append_drop limit queue] at hnodup
  conv_lhs =>
    arg 2
    rw [← List.take_append_drop limit queue]
  rw [List.filter_append, List.filter_eq_nil_iff.mpr (by simp), List.nil_append]
  refine List.filter_eq_self.mpr fun a ha => decide_eq_true fun ha' => ?_
  exact (List.nodup_append.mp hnodup).2.2 a ha' a ha rfl

/-- A body that serves every item which is `ready`, while `I` holds: it raises on none, and makes
the item it serves unready and no other. -/
structure Drains (body : σ → α → Except ε β × σ) (I : σ → Prop) (ready : σ → α → Prop) : Prop where
  serves : ∀ s a, I s → ready s a → ¬ Raises (body s a) ∧ I (body s a).2 ∧
    ∀ b, ready (body s a).2 b ↔ ready s b ∧ b ≠ a

open Classical in
/-- The items that are ready, in their order. -/
noncomputable def queue (ready : σ → α → Prop) (l : List α) (s : σ) : List α :=
  l.filter fun a => decide (ready s a)

open Classical in
lemma mem_queue {ready : σ → α → Prop} : a ∈ queue ready l s ↔ a ∈ l ∧ ready s a := by
  rw [queue, List.mem_filter, decide_eq_true_eq]

namespace Drains

variable {I : σ → Prop} {ready : σ → α → Prop} (h : Drains body I ready)

include h

/-- A loop over items that are ready serves them all. -/
lemma batch (hI : I s) (hl : l.Nodup) (hready : ∀ a ∈ l, ready s a) :
    (batch body s l).1 = .ok l.length ∧ I (batch body s l).2 ∧
      ∀ b, ready (batch body s l).2 b ↔ ready s b ∧ b ∉ l := by
  induction l generalizing s with
  | nil => exact ⟨rfl, hI, fun b => by simp⟩
  | cons a l ih =>
    obtain ⟨hnot, hl⟩ := List.nodup_cons.mp hl
    obtain ⟨hok, hI', hothers⟩ := h.serves s a hI (hready a List.mem_cons_self)
    obtain ⟨b, s', hrun⟩ := not_raises_iff.mp hok
    rw [hrun] at hI' hothers
    obtain ⟨hcount, hI'', hleft⟩ := ih hI' hl fun b hb =>
      (hothers b).mpr ⟨hready b (List.mem_cons_of_mem a hb), fun heq => hnot (heq ▸ hb)⟩
    simp only [Support.batch, hrun]
    refine ⟨?_, hI'', fun b => ?_⟩
    · rw [hcount]
      rfl
    · rw [hleft, hothers, List.mem_cons, not_or, and_assoc]

open Classical in
/-- One round: the first `limit` of the items that are ready are served, and the rest are left. -/
lemma round (hI : I s) (hl : l.Nodup) (limit : ℕ) :
    let result := Support.batch body s ((queue ready l s).take limit)
    result.1 = .ok (min limit (queue ready l s).length) ∧ I result.2 ∧
      queue ready l result.2 = (queue ready l s).drop limit := by
  intro result
  have hnodup : (queue ready l s).Nodup := hl.filter _
  have hready : ∀ a ∈ (queue ready l s).take limit, ready s a := fun a ha =>
    (mem_queue.mp (List.mem_of_mem_take ha)).2
  obtain ⟨hcount, hI', hleft⟩ := h.batch hI (hnodup.sublist (List.take_sublist _ _)) hready
  refine ⟨by rw [← List.length_take]; exact hcount, hI', filter_eq_drop hl limit fun b _ => ?_⟩
  change b ∈ queue ready l result.2 ↔ b ∈ queue ready l s ∧ b ∉ (queue ready l s).take limit
  rw [mem_queue, mem_queue, hleft, and_assoc]

/-- Rounds one after the other: after `k` of them the first `k * limit` items have been served. -/
lemma rounds (hI : I s) (hl : l.Nodup) {limit : ℕ} {step : σ → σ}
    (hstep : ∀ s, I s → step s = (Support.batch body s ((queue ready l s).take limit)).2) (k : ℕ) :
    I (step^[k] s) ∧ queue ready l (step^[k] s) = (queue ready l s).drop (k * limit) := by
  induction k with
  | zero => exact ⟨hI, by simp⟩
  | succ k ih =>
    obtain ⟨hI', hqueue⟩ := ih
    obtain ⟨-, hI'', hnext⟩ := h.round hI' hl limit
    rw [Function.iterate_succ_apply', hstep _ hI']
    refine ⟨hI'', hnext.trans ?_⟩
    rw [hqueue, List.drop_drop, Nat.succ_mul]

end Drains

end Support
