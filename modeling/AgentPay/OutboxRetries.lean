import AgentPay.Outbox
import AgentPay.Runs

/-!
# How often an event is tried

`attempts` counts the claims of an event. Only `recover_stale` compares it with the most that there
may be; `mark_failed` puts an event back whatever its count is.
-/

namespace AgentPay.Outbox

open Support

/-! ### Claims -/

/-- `recover_stale` is called with one bound. -/
def Action.Within (m : ℤ) : Action → Prop
  | .recover _ _ maxAttempts => maxAttempts = m
  | _ => True

/-- How often an event was claimed. -/
def State.claims (s : State) (e : ℕ) : ℕ :=
  ((s.sessions.map (·.claimed)).map fun claimed => (claimed.map (·.eventId)).count e).sum

/-- `attempts` counts the claims. -/
structure State.Counted (s : State) : Prop where
  attempts : ∀ (e : ℕ) (row : EventRow), s.events[e]? = some row → row.attempts = s.claims e
  absent : ∀ e, s.events.length ≤ e → s.claims e = 0

namespace State

lemma claims_eq_of_claimed {s s' : State}
    (h : s'.sessions.map (·.claimed) = s.sessions.map (·.claimed)) (e : ℕ) :
    s'.claims e = s.claims e := by
  rw [claims, h, claims]

/-- A worker's step claims nothing. -/
lemma map_claimed_set {sessions : List Session} {w : ℕ} {x y : Session}
    (hx : sessions[w]? = some x) (hy : y.claimed = x.claimed) :
    (sessions.set w y).map (·.claimed) = sessions.map (·.claimed) := by
  refine List.ext_getElem? fun i => ?_
  rw [List.getElem?_map, List.getElem?_map, List.getElem?_set]
  split_ifs with hi hlt
  · subst hi
    simp [hx, hy]
  · subst hi
    simp [List.getElem?_eq_none (not_lt.mp hlt)]
  · rfl

lemma claims_claim (s : State) (now : Time) (locked : List ℕ) (limit e : ℕ) :
    (s.claim now locked limit).claims e =
      s.claims e + if e ∈ due s.events now locked limit then 1 else 0 := by
  have hcount : (due s.events now locked limit).count e =
      if e ∈ due s.events now locked limit then 1 else 0 :=
    (due_nodup _ _ _ _).count
  simp only [claims, claim, List.map_append, List.map_cons, List.map_nil, List.sum_append,
    List.sum_cons, List.sum_nil, add_zero, claimBatch_eventIds, hcount]

/-- What a step but a claim keeps: the claims, and the attempts of the rows that were there. -/
structure Keeps (s s' : State) : Prop where
  claimed : s'.sessions.map (·.claimed) = s.sessions.map (·.claimed)
  attempts : ∀ (e : ℕ) (row : EventRow), s'.events[e]? = some row →
    (∃ row', s.events[e]? = some row' ∧ row.attempts = row'.attempts) ∨
      s.events.length ≤ e ∧ row.attempts = 0

lemma Keeps.claims {s s' : State} (h : s.Keeps s') (e : ℕ) : s'.claims e = s.claims e :=
  claims_eq_of_claimed h.claimed e

lemma Keeps.of_events {s s' : State} (hclaimed : s'.sessions.map (·.claimed) =
    s.sessions.map (·.claimed)) (hevents : s'.events = s.events) : s.Keeps s' :=
  ⟨hclaimed, fun _ row hrow => .inl ⟨row, hevents ▸ hrow, rfl⟩⟩

/-- An update that leaves the attempts alone. -/
lemma Keeps.of_ite {s s' : State} {p : ℕ → EventRow → Prop} [∀ e row, Decidable (p e row)]
    {f : EventRow → EventRow} (hclaimed : s'.sessions.map (·.claimed) = s.sessions.map (·.claimed))
    (hevents : ∀ e, s'.events[e]? = s.events[e]?.map fun row => if p e row then f row else row)
    (hf : ∀ row, (f row).attempts = row.attempts) : s.Keeps s' := by
  refine ⟨hclaimed, fun e row hrow => .inl ?_⟩
  rw [hevents] at hrow
  obtain ⟨row', hrow', rfl⟩ := Option.map_eq_some_iff.mp hrow
  refine ⟨row', hrow', ?_⟩
  split_ifs
  · exact hf row'
  · rfl

lemma Does.keeps {env : Env} {s s' : State} {a : Action} (hdoes : s.Does env a s') :
    s.Keeps s' ∨ ∃ now locked limit, s' = s.claim now locked limit := by
  cases hdoes with
  | rests => exact .inl (.of_events rfl rfl)
  | transacts =>
    refine .inl ⟨rfl, fun e row hrow => ?_⟩
    rcases getElem?_append_enqueue hrow with hold | ⟨hnew, -, hzero⟩
    · exact .inl ⟨row, hold, rfl⟩
    · exact .inr ⟨hnew, hzero⟩
  | claims => exact .inr ⟨_, _, _, rfl⟩
  | records hx | marks hx | stops hx => exact .inl (.of_events (map_claimed_set hx rfl) rfl)
  | @commits w lost x c rest rows published hx =>
    have hclaimed : (s.commit w lost x c rest rows published).sessions.map (·.claimed) =
        s.sessions.map (·.claimed) := map_claimed_set hx (by cases lost <;> rfl)
    cases published with
    | none => exact .inl (.of_events hclaimed rfl)
    | some now => exact .inl (.of_ite hclaimed (getElem?_markPublished _ _ _) fun _ => rfl)
  | fails hx _ _ _ hevents =>
    exact .inl (.of_ite (map_claimed_set hx rfl) (getElem?_markFailed hevents) fun _ => rfl)
  | recovers _ hrun => exact .inl (.of_ite rfl (getElem?_recoverStale hrun) fun _ => rfl)

lemma start_counted (db : Db) : (start db).Counted := by
  constructor
  · intro e row hrow
    simp [start] at hrow
  · intro e _
    rfl

lemma step_counted (env : Env) {s : State} (h : s.Counted) (a : Action) :
    (s.step env a).Counted := by
  have hevolves := step_evolves env s a
  have hdoes := step_does env s a
  generalize s.step env a = s' at hevolves hdoes
  have hlength : ∀ e, s'.events.length ≤ e → s.events.length ≤ e := by
    intro e hle
    by_contra hlt
    obtain ⟨row', hrow', -⟩ := hevolves e _ (List.getElem?_eq_getElem (not_le.mp hlt))
    exact absurd (List.getElem?_eq_some_iff.mp hrow').1 (not_lt.mpr hle)
  rcases hdoes.keeps with hkeeps | ⟨now, locked, limit, rfl⟩
  · refine ⟨fun e row hrow => ?_, fun e hle => ?_⟩
    · rw [hkeeps.claims]
      rcases hkeeps.attempts e row hrow with ⟨row', hrow', hattempts⟩ | ⟨hnew, hzero⟩
      · exact hattempts.trans (h.attempts e row' hrow')
      · rw [hzero, h.absent e hnew]
    · rw [hkeeps.claims, h.absent e (hlength e hle)]
  · refine ⟨fun e row hrow => ?_, fun e hle => ?_⟩
    · have hclaimed := getElem?_claimBatch s.events now locked limit e
      rw [show (claimBatch s.events now locked limit).2[e]? = some row from hrow] at hclaimed
      obtain ⟨row', hrow', rfl⟩ := Option.map_eq_some_iff.mp hclaimed.symm
      rw [claims_claim, ← h.attempts e row' hrow']
      split_ifs <;> rfl
    · have hnew := hlength e hle
      rw [claims_claim, h.absent e hnew, if_neg]
      intro hdue
      obtain ⟨row, hrow, -⟩ := mem_due hdue
      exact absurd (List.getElem?_eq_some_iff.mp hrow).1 (not_lt.mpr hnew)

/-! ### The bound -/

/-- No event is claimed more than `m` times, and one that was claimed `m` times is not put back. -/
structure Bounded (s : State) (m : ℤ) : Prop where
  claimed : ∀ e, (s.claims e : ℤ) ≤ m
  spent : ∀ (e : ℕ) (row : EventRow), s.events[e]? = some row → (s.claims e : ℤ) = m →
    row.status ≠ .pending

/-- `mark_failed` is about to find an event that was claimed `m` times. -/
def ReturnsSpent (m : ℤ) (s : State) : Action → Prop
  | .fail w _ => ∃ x c rest error row, s.sessions[w]? = some x ∧ x.rest = c :: rest ∧
      x.phase = .raised error ∧ ¬ s.Locked c.eventId ∧ s.events[c.eventId]? = some row ∧
      row.status = .processing ∧ m ≤ row.attempts
  | _ => False

/-- A claim takes pending events only, and none of these is spent. -/
lemma claim_bounded {s : State} {m : ℤ} (h : s.Bounded m) (now : Time) (locked : List ℕ)
    (limit : ℕ) : (s.claim now locked limit).Bounded m := by
  refine ⟨fun e => ?_, fun e row hrow he => ?_⟩
  · rw [claims_claim]
    split_ifs with hdue
    · obtain ⟨row, hrow, hpending⟩ := mem_due hdue
      have hlt : (s.claims e : ℤ) < m :=
        lt_of_le_of_ne (h.claimed e) fun he => h.spent e row hrow he hpending
      push_cast
      omega
    · exact h.claimed e
  · have hclaimed := getElem?_claimBatch s.events now locked limit e
    rw [show (claimBatch s.events now locked limit).2[e]? = some row from hrow] at hclaimed
    obtain ⟨row', hrow', rfl⟩ := Option.map_eq_some_iff.mp hclaimed.symm
    rw [claims_claim] at he
    split_ifs at he ⊢ with hdue
    · simp [EventRow.claim]
    · exact h.spent e row' hrow' he

/-- A step keeps the bound unless it returns a spent event. -/
lemma step_bounded {env : Env} {s s' : State} {a : Action} {m : ℤ} (hm : 1 ≤ m) (hc : s.Counted)
    (h : s.Bounded m) (ha : a.Within m) (hdoes : s.Does env a s')
    (hreturns : ¬ s.ReturnsSpent m a) : s'.Bounded m := by
  rcases hdoes.keeps with hkeeps | ⟨now, locked, limit, rfl⟩
  · have hclaims := hkeeps.claims
    refine ⟨fun e => hclaims e ▸ h.claimed e, fun e row hrow he => ?_⟩
    rw [hclaims] at he
    cases hdoes with
    | rests | records | marks | stops => exact h.spent e row hrow he
    | transacts =>
      rcases getElem?_append_enqueue hrow with hold | ⟨hnew, -⟩
      · exact h.spent e row hold he
      · rw [hc.absent e hnew] at he
        omega
    | claims => exact (claim_bounded h _ _ _).spent e row hrow (by rw [hclaims, he])
    | @commits w lost x c rest rows published =>
      cases published with
      | none => exact h.spent e row hrow he
      | some now =>
        have hmarked := getElem?_markPublished s.events now c.eventId e
        rw [show (markPublished s.events now c.eventId)[e]? = some row from hrow] at hmarked
        obtain ⟨row', hrow', rfl⟩ := Option.map_eq_some_iff.mp hmarked.symm
        split_ifs
        · simp
        · exact h.spent e row' hrow' he
    | @fails w now x c rest error retry text events hx hrest hphase hfree hevents =>
      have hfailed := getElem?_markFailed hevents e
      rw [show events[e]? = some row from hrow] at hfailed
      obtain ⟨row', hrow', rfl⟩ := Option.map_eq_some_iff.mp hfailed.symm
      split_ifs with hhead
      · obtain ⟨rfl, hprocessing⟩ := hhead
        refine absurd ⟨x, c, rest, error, row', hx, hrest, hphase, hfree, hrow', hprocessing, ?_⟩
          hreturns
        rw [hc.attempts _ row' hrow', he]
      · exact h.spent e row' hrow' he
    | recovers _ hrun =>
      obtain rfl : _ = m := ha
      have hrecovered := getElem?_recoverStale hrun e
      rw [show _ = some row from hrow] at hrecovered
      obtain ⟨row', hrow', rfl⟩ := Option.map_eq_some_iff.mp hrecovered.symm
      split_ifs
      · rw [EventRow.recover, if_pos (by rw [hc.attempts e row' hrow', he])]
        simp
      · exact h.spent e row' hrow' he
  · exact claim_bounded h now locked limit

/-- A step that returns a spent event breaks the bound: the event is pending again. -/
lemma not_returnsSpent {env : Env} {s : State} {a : Action} {m : ℤ} (hc : s.Counted)
    (h : (s.step env a).Bounded m) : ¬ s.ReturnsSpent m a := by
  intro hreturns
  cases a with
  | fail w now =>
    obtain ⟨x, c, rest, error, row, hx, hrest, hphase, hfree, hrow, hprocessing, hspent⟩ := hreturns
    obtain ⟨events, hevents⟩ : ∃ events, markFailed s.events now c.eventId (retryAfter c.attempts)
        (some (String.ofList (error.toList.take 1000))) = .ok events := by
      rw [markFailed, if_neg]
      · exact ⟨_, rfl⟩
      · simp [retryAfter]
    have hstep : s.step env (.fail w now) =
        { s with events }.put w { x with rest, phase := .idle } := by
      obtain ⟨claimed, rest', phase, processed⟩ := x
      cases hrest
      cases hphase
      simp only [step, hx, fail, if_neg hfree, hevents]
    have hrow' := getElem?_markFailed hevents c.eventId
    rw [hrow, Option.map_some, if_pos ⟨rfl, hprocessing⟩] at hrow'
    rw [hstep] at h
    have hclaims : ({ s with events }.put w { x with rest, phase := .idle }).claims c.eventId =
        s.claims c.eventId :=
      claims_eq_of_claimed (map_claimed_set (y := { x with rest, phase := .idle }) hx rfl) _
    refine h.spent c.eventId _ hrow' (le_antisymm (h.claimed c.eventId) ?_) rfl
    rw [hclaims, ← hc.attempts _ row hrow]
    exact hspent
  | _ => exact hreturns

/-- A stale event that was claimed `m` times is dead after `recover_stale`. -/
lemma recover_spent {s : State} (hc : s.Counted) {m : ℤ} {now : Time} {leaseSeconds : ℤ} {n : ℕ}
    {events : List EventRow} (hrun : recoverStale s.events now leaseSeconds m = .ok (n, events))
    {e : ℕ} {row : EventRow} (hrow : s.events[e]? = some row) (hstale : row.Stale now leaseSeconds)
    (hspent : (s.claims e : ℤ) = m) : events[e]?.map (·.status) = some .deadLetter := by
  rw [getElem?_recoverStale hrun, hrow]
  simp [hstale, EventRow.recover, hc.attempts e row hrow, hspent]

/-! ### Runs -/

lemma along_bounded_iff {env : Env} {m : ℤ} (hm : 1 ≤ m) {s : State} (hc : s.Counted)
    (h : s.Bounded m) {as : List Action} (has : ∀ a ∈ as, a.Within m) :
    Machine.Along (State.step env) (fun s a => (s.step env a).Bounded m) s as ↔
      Machine.Along (State.step env) (fun s a => ¬ s.ReturnsSpent m a) s as := by
  induction as generalizing s with
  | nil => simp
  | cons a as ih =>
    have hrest : ∀ a' ∈ as, a'.Within m := fun a' ha' => has a' (List.mem_cons_of_mem a ha')
    rw [Machine.along_cons, Machine.along_cons]
    constructor
    · rintro ⟨hbounded, has'⟩
      exact ⟨not_returnsSpent hc hbounded, (ih (step_counted env hc a) hbounded hrest).mp has'⟩
    · rintro ⟨hreturns, has'⟩
      have hbounded := step_bounded hm hc h (has a (by simp)) (step_does env s a) hreturns
      exact ⟨hbounded, (ih (step_counted env hc a) hbounded hrest).mpr has'⟩

/-- With `recover_stale` called for `m` attempts, the events of a run are bounded in every state of
it exactly when no step returns a spent event; and a stale event that is spent ends in
DEAD_LETTER. -/
theorem run_bounded_iff (env : Env) (db : Db) {m : ℤ} (hm : 1 ≤ m) {as : List Action}
    (has : ∀ a ∈ as, a.Within m) :
    let s := Machine.run (State.step env) (.start db) as
    (Machine.Along (State.step env) (fun s a => (s.step env a).Bounded m) (.start db) as ↔
      Machine.Along (State.step env) (fun s a => ¬ s.ReturnsSpent m a) (.start db) as) ∧
    ∀ {now : Time} {leaseSeconds : ℤ} {n : ℕ} {events : List EventRow},
      recoverStale s.events now leaseSeconds m = .ok (n, events) →
      ∀ (e : ℕ) (row : EventRow), s.events[e]? = some row → row.Stale now leaseSeconds →
        (s.claims e : ℤ) = m → events[e]?.map (·.status) = some .deadLetter := by
  intro s
  have hcounted : s.Counted :=
    Machine.run_invariant (I := Counted) (fun _ a h => step_counted env h a) (start_counted db) as
  have hstart : (start db).Bounded m := by
    refine ⟨fun e => ?_, fun e row hrow => ?_⟩
    · rw [(start_counted db).absent e (Nat.zero_le e)]
      omega
    · simp [start] at hrow
  exact ⟨along_bounded_iff hm (start_counted db) hstart has, fun hrun e row hrow hstale hspent =>
    recover_spent hcounted hrun hrow hstale hspent⟩

end State

/-- Two workers die with the event, and it is dead. -/
theorem State.run_bounded_crashes :
    let as := [.transact (.seeded .succeeded none) 0 [.sample], .claim 0 [] 50, .crash 0,
      .recover 100 60 2, .claim 100 [] 50, .crash 1, .recover 200 60 2]
    Machine.Along (State.step .sample) (fun s a => (s.step .sample a).Bounded 2)
        (.start (.seeded .succeeded none)) as ∧
      ((Machine.run (State.step .sample) (.start (.seeded .succeeded none)) as).events.map
        (·.status)) = [.deadLetter] := by
  intro as
  refine ⟨?_, by decide +kernel⟩
  have hwithin : ∀ a ∈ as, a.Within 2 := by simp [as, Action.Within]
  refine (State.run_bounded_iff .sample (.seeded .succeeded none) (by decide) hwithin).1.mpr ?_
  simp [as, State.ReturnsSpent]

/-- What a worker does with an event whose processing fails. -/
def Action.failing (w : ℕ) : List Action :=
  [.claim (1000 * w) [] 50, .raise w "error", .fail w (1000 * w)]

/-- A worker's failures put the event back each time: after the default of five attempts it is
claimed a sixth time. -/
theorem State.run_sixClaims :
    let s := Machine.run (State.step .sample) (.start (.seeded .succeeded none))
      (.transact (.seeded .succeeded none) 0 [.sample] :: (List.range 6).flatMap Action.failing)
    s.events.map (fun row => (row.status, row.attempts)) = [(.pending, 6)] ∧ ¬ s.Bounded 5 := by
  intro s
  refine ⟨by decide +kernel, fun h => ?_⟩
  have hclaimed := h.claimed 0
  revert hclaimed
  decide +kernel

end AgentPay.Outbox
