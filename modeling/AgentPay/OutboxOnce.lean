import AgentPay.Outbox

/-!
# Consumed exactly once

A published event has the effect it is to have: its row was inserted in the transaction that marked
the event, or in an earlier one. The unique keys keep a second one out.
-/

namespace AgentPay.Outbox

open Support

/-! ### The rows of one transaction -/

/-- The rows that the transaction of an event is to insert. -/
lemma Claim.sideEffects_due {env : Env} {db : Db} {c : Claim} {rows : Inserted}
    (h : c.sideEffects env db = .ok rows) {k : Effect} (hdue : k.Due c.toEvent) :
    rows.effect k = some c.eventId := by
  simp only [sideEffects] at h
  cases k with
  | audit =>
    have haudit : c.eventType ∈ auditableEvents := hdue
    rw [if_pos haudit] at h
    split_ifs at h
    · split at h
      · cases h
      · cases h
        rfl
    · cases h
      rfl
  | notification =>
    have hnotify : c.eventType = "NotificationRequested" := hdue
    rw [if_pos hnotify] at h
    split at h
    · cases h
    · cases h
      rfl

namespace State

/-- A row that is not inserted is there. -/
lemma absent_effect (s : State) {rows : Inserted} {k : Effect} {e : ℕ}
    (h : rows.effect k = some e) : e ∈ s.effects k ∨ (s.absent rows).effect k = some e := by
  cases k with
  | audit =>
    obtain ⟨row, hrow, rfl⟩ := Option.map_eq_some_iff.mp h
    by_cases hmem : row.eventId ∈ s.effects .audit
    · exact .inl hmem
    · exact .inr (by simp [absent, Inserted.effect, hrow, Option.filter, hmem])
  | notification =>
    obtain ⟨row, hrow, rfl⟩ := Option.map_eq_some_iff.mp h
    by_cases hmem : row.sourceEventId ∈ s.effects .notification
    · exact .inl hmem
    · exact .inr (by simp [absent, Inserted.effect, hrow, Option.filter, hmem])

/-- The keys of a table after an insert that a conflict leaves out. -/
lemma mem_keys_insert {ρ : Type} {key : ρ → Option ℕ} {id : ρ → ℕ} (hkey : ∀ r, key r = some (id r))
    (t : Table ρ key) (row : Option ρ) (e : ℕ) :
    e ∈ ((row.bind t.insert?).getD t).rows.map id ↔ e ∈ t.rows.map id ∨ row.map id = some e := by
  cases row with
  | none => simp
  | some row =>
    cases hinsert : t.insert? row with
    | none =>
      obtain ⟨r, hr, hrow⟩ := (Table.insert?_eq_none_iff (hkey row)).mp hinsert
      have hmem : id row ∈ t.rows.map id := by
        rw [hkey r] at hrow
        exact List.mem_map.mpr ⟨r, hr, Option.some.inj hrow⟩
      simp only [Option.bind_some, hinsert, Option.getD_none, Option.map_some, Option.some.injEq]
      exact ⟨.inl, fun h => h.elim (fun h => h) fun h => h ▸ hmem⟩
    | some t' =>
      obtain ⟨-, hrows⟩ := Table.insert?_eq_some.mp hinsert
      simp [hinsert, hrows, or_comm, eq_comm]

/-- The commit of a transaction makes its rows effective. -/
lemma mem_effects_commit {s : State} {w : ℕ} {lost : Option String} {x : Session} {c : Claim}
    {rest : List Claim} {rows : Inserted} {published : Option Time} {k : Effect} {e : ℕ} :
    e ∈ (s.commit w lost x c rest rows published).effects k ↔
      e ∈ s.effects k ∨ rows.effect k = some e := by
  cases k with
  | audit => exact mem_keys_insert (fun _ => rfl) _ _ _
  | notification => exact mem_keys_insert (fun _ => rfl) _ _ _

lemma nodup_keys {ρ : Type} {id : ρ → ℕ} (t : Table ρ fun r => some (id r)) :
    (t.rows.map id).Nodup := by
  have h := t.unique
  rwa [List.filterMap_eq_map'] at h

/-- No event has an effect twice. -/
lemma effects_nodup (s : State) (k : Effect) : (s.effects k).Nodup := by
  cases k with
  | audit => exact nodup_keys s.auditEvents
  | notification => exact nodup_keys s.notifications

/-- No step takes an effect back. -/
lemma step_effects (env : Env) (s : State) (a : Action) (k : Effect) :
    s.effects k ⊆ (s.step env a).effects k := by
  have hdoes := step_does env s a
  generalize s.step env a = s' at hdoes
  cases hdoes with
  | commits => exact fun e he => mem_effects_commit.mpr (.inl he)
  | _ => cases k <;> exact fun e he => he

end State

/-! ### The invariant -/

/-- A worker has the events as they are on file, and what it is about to commit, or the tables, have
the effects of the event it is at. -/
structure Session.Fits (x : Session) (s : State) : Prop where
  claims : ∀ c ∈ x.rest, ∃ row, s.events[c.eventId]? = some row ∧ row.toEvent = c.toEvent
  covered : x.phase.Open → ∀ c ∈ x.rest.head?, ∀ k : Effect, k.Due c.toEvent →
    c.eventId ∈ s.effects k ∨ x.phase.inserted.effect k = some c.eventId

/-- A worker that rests still fits. -/
lemma Session.Fits.mono {x : Session} {s s' : State} (h : x.Fits s) (hevolves : s.Evolves s')
    (heffects : ∀ k, s.effects k ⊆ s'.effects k) : x.Fits s' where
  claims c hc := by
    obtain ⟨row, hrow, hevent⟩ := h.claims c hc
    obtain ⟨row', hrow', hbecomes⟩ := hevolves c.eventId row hrow
    exact ⟨row', hrow', hbecomes.event.trans hevent⟩
  covered hopen c hc k hdue := (h.covered hopen c hc k hdue).imp_left fun h => heffects k h

/-- A worker outside a transaction has only its claims to keep. -/
lemma Session.Fits.shut {x y : Session} {s : State} (h : x.Fits s) (hrest : y.rest ⊆ x.rest)
    (hshut : ¬ y.phase.Open) : y.Fits s :=
  ⟨fun c hc => h.claims c (hrest hc), fun hopen => absurd hopen hshut⟩

namespace State

/-- Every published event has its effects. -/
structure Sound (s : State) : Prop where
  sessions : ∀ x ∈ s.sessions, x.Fits s
  published : ∀ (e : ℕ) (row : EventRow), s.events[e]? = some row → row.status = .published →
    ∀ k : Effect, k.Due row.toEvent → e ∈ s.effects k

lemma start_sound (db : Db) : (start db).Sound := by
  constructor
  · intro x hx
    cases hx
  · intro e row hrow
    simp [start] at hrow

/-- The workers after a step fit. -/
lemma step_fits {env : Env} {s s' : State} {a : Action} (h : s.Sound) (hdoes : s.Does env a s')
    (hevolves : s.Evolves s') (heffects : ∀ k, s.effects k ⊆ s'.effects k) {y : Session}
    (hy : y ∈ s'.sessions) : y.Fits s' := by
  have hold : ∀ x ∈ s.sessions, x.Fits s' := fun x hx => (h.sessions x hx).mono hevolves heffects
  cases hdoes with
  | rests | transacts | recovers => exact hold y hy
  | claims =>
    rcases List.mem_append.mp hy with hy | hy
    · exact hold y hy
    · obtain rfl := List.mem_singleton.mp hy
      refine ⟨fun c hc => ?_, False.elim⟩
      obtain ⟨-, row, hrow, hevent, -⟩ := mem_claimBatch hc
      obtain ⟨row', hrow', hbecomes⟩ := hevolves c.eventId row hrow
      exact ⟨row', hrow', hbecomes.event.trans hevent.symm⟩
  | @records w x c rest rows hx hrest hphase hrows =>
    rcases List.mem_or_eq_of_mem_set hy with hy | rfl
    · exact hold y hy
    · refine ⟨(hold x (List.mem_of_getElem? hx)).claims, fun _ c' hc' k hdue => ?_⟩
      obtain rfl : c' = c := by simpa [hrest, eq_comm] using hc'
      exact absent_effect s (Claim.sideEffects_due hrows hdue)
  | @marks w now x c rest rows published hx hrest hphase =>
    rcases List.mem_or_eq_of_mem_set hy with hy | rfl
    · exact hold y hy
    · have hfits := hold x (List.mem_of_getElem? hx)
      refine ⟨hfits.claims, fun _ c' hc' k hdue => ?_⟩
      have hcovered := hfits.covered (by simp [hphase, Phase.Open]) c' hc' k hdue
      rwa [hphase] at hcovered
  | @commits w lost x c rest rows published hx hrest hphase =>
    rcases List.mem_or_eq_of_mem_set hy with hy | rfl
    · exact hold y hy
    · refine (hold x (List.mem_of_getElem? hx)).shut ?_ ?_ <;> cases lost <;>
        simp [hrest, Phase.Open]
  | fails hx hrest =>
    rcases List.mem_or_eq_of_mem_set hy with hy | rfl
    · exact hold y hy
    · exact (hold _ (List.mem_of_getElem? hx)).shut (by simp [hrest]) False.elim
  | stops hx hphase =>
    rcases List.mem_or_eq_of_mem_set hy with hy | rfl
    · exact hold y hy
    · refine (hold _ (List.mem_of_getElem? hx)).shut (List.Subset.refl _) ?_
      rcases hphase with rfl | ⟨-, error, rfl⟩ <;> exact False.elim

/-- A row that an update leaves published was published. -/
lemma published_ite {events events' : List EventRow} {p : EventRow → Prop} [DecidablePred p]
    {f : EventRow → EventRow} {e : ℕ} {row : EventRow}
    (h : events'[e]? = events[e]?.map fun row => if p row then f row else row)
    (hf : ∀ row, (f row).status ≠ .published) (hrow : events'[e]? = some row)
    (hstatus : row.status = .published) : events[e]? = some row := by
  rw [h] at hrow
  obtain ⟨row', hrow', rfl⟩ := Option.map_eq_some_iff.mp hrow
  split_ifs at hstatus ⊢ with hp
  · exact absurd hstatus (hf row')
  · exact hrow'

/-- An event that a step publishes has its effects after it. -/
lemma step_published {env : Env} {s s' : State} {a : Action} (h : s.Sound)
    (hdoes : s.Does env a s') {e : ℕ} {row : EventRow} (hrow : s'.events[e]? = some row)
    (hstatus : row.status = .published) :
    s.events[e]? = some row ∨ ∀ k : Effect, k.Due row.toEvent → e ∈ s'.effects k := by
  cases hdoes with
  | rests | records | marks | stops => exact .inl hrow
  | transacts =>
    rcases getElem?_append_enqueue hrow with hold | ⟨-, hpending, -⟩
    · exact .inl hold
    · cases hstatus.symm.trans hpending
  | claims =>
    exact .inl (published_ite (getElem?_claimBatch _ _ _ _ _) (fun _ => by simp [EventRow.claim])
      hrow hstatus)
  | @commits w lost x c rest rows published hx hrest hphase =>
    cases published with
    | none => exact .inl hrow
    | some now =>
      have hmarked := getElem?_markPublished s.events now c.eventId e
      rw [show markPublished s.events now c.eventId = (s.commit w lost x c rest rows
        (some now)).events from rfl, hrow] at hmarked
      obtain ⟨row', hrow', rfl⟩ := Option.map_eq_some_iff.mp hmarked.symm
      split_ifs at hstatus ⊢ with hhead
      · obtain ⟨rfl, -⟩ := hhead
        refine .inr fun k hdue => mem_effects_commit.mpr ?_
        have hfits := h.sessions x (List.mem_of_getElem? hx)
        obtain ⟨row'', hrow'', hevent⟩ := hfits.claims c (by simp [hrest])
        obtain rfl := Option.some.inj (hrow'.symm.trans hrow'')
        have hcovered := hfits.covered (by simp [hphase, Phase.Open]) c (by simp [hrest]) k
          (hevent ▸ hdue)
        rwa [hphase] at hcovered
      · exact .inl hrow'
  | fails hx hrest hphase hfree hevents =>
    exact .inl (published_ite (getElem?_markFailed hevents _) (fun _ => by simp) hrow hstatus)
  | recovers hfree hrun =>
    refine .inl (published_ite (getElem?_recoverStale hrun _) (fun _ => ?_) hrow hstatus)
    simp only [EventRow.recover]
    split_ifs <;> simp

lemma step_sound (env : Env) {s : State} (h : s.Sound) (a : Action) : (s.step env a).Sound where
  sessions _ hy :=
    step_fits h (step_does env s a) (step_evolves env s a) (step_effects env s a) hy
  published e row hrow hstatus k hdue := by
    rcases step_published h (step_does env s a) hrow hstatus with hold | hnew
    · exact step_effects env s a k (h.published e row hold hstatus k hdue)
    · exact hnew k hdue

/-! ### Runs -/

/-- What is committed of the events and their effects: a published event has the effects it is to
have, and no event has one twice. -/
structure ExactlyOnce (s : State) : Prop where
  audited : ∀ (e : ℕ) (row : EventRow), s.events[e]? = some row → row.status = .published →
    row.eventType ∈ auditableEvents → (s.auditEvents.rows.map (·.eventId)).count e = 1
  notified : ∀ (e : ℕ) (row : EventRow), s.events[e]? = some row → row.status = .published →
    row.eventType = "NotificationRequested" →
    (s.notifications.rows.map (·.sourceEventId)).count e = 1
  auditedOnce : ∀ e, (s.auditEvents.rows.map (·.eventId)).count e ≤ 1
  notifiedOnce : ∀ e, (s.notifications.rows.map (·.sourceEventId)).count e ≤ 1

lemma Sound.exactlyOnce {s : State} (h : s.Sound) : s.ExactlyOnce where
  audited e row hrow hstatus hdue :=
    List.count_eq_one_of_mem (s.effects_nodup .audit) (h.published e row hrow hstatus .audit hdue)
  notified e row hrow hstatus hdue :=
    List.count_eq_one_of_mem (s.effects_nodup .notification)
      (h.published e row hrow hstatus .notification hdue)
  auditedOnce := List.nodup_iff_count_le_one.mp (s.effects_nodup .audit)
  notifiedOnce := List.nodup_iff_count_le_one.mp (s.effects_nodup .notification)

/-- After any schedule of producers, workers, errors, crashes and recoveries the effects are there
exactly once, and whatever follows, no event disappears and a published one stays as it is. -/
theorem run_exactlyOnce (env : Env) (db : Db) (as bs : List Action) :
    let s := Machine.run (State.step env) (.start db) as
    s.ExactlyOnce ∧
      ∀ (e : ℕ) (row : EventRow), s.events[e]? = some row →
        ∃ row', (Machine.run (State.step env) s bs).events[e]? = some row' ∧
          row'.toEvent = row.toEvent ∧ (row.status = .published → row' = row) := by
  intro s
  have hsound : s.Sound :=
    Machine.run_invariant (I := Sound) (fun _ a h => step_sound env h a) (start_sound db) as
  refine ⟨hsound.exactlyOnce, fun e row hrow => ?_⟩
  obtain ⟨row', hrow', hbecomes⟩ := run_evolves env s bs e row hrow
  exact ⟨row', hrow', hbecomes.event, fun hstatus => hbecomes.final (.inl hstatus)⟩

end State

end AgentPay.Outbox
