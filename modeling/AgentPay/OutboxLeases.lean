import AgentPay.OutboxOnce
import AgentPay.Runs

/-!
# Claims as leases

A claim is a lease without a token: what a worker commits and what it marks is guarded by the
status of the event alone. The guard is enough as long as `recover_stale` takes back the claims of
dead workers only.
-/

namespace AgentPay.Outbox

open Support

/-- The claim is the last one of its event, and the event is being processed under it. -/
def Claim.Current (c : Claim) (s : State) : Prop :=
  ∃ row, s.events[c.eventId]? = some row ∧ row.status = .processing ∧ row.attempts = c.attempts

def Claim.Published (c : Claim) (s : State) : Prop :=
  ∃ row, s.events[c.eventId]? = some row ∧ row.status = .published

/-- The step changes the status of the claim's event or makes a side effect of it effective. -/
def State.Applies (s : State) (c : Claim) : Action → Prop
  | .commit w _ => ∃ x rest rows published, s.sessions[w]? = some x ∧ x.rest = c :: rest ∧
      x.phase = .marked rows published ∧
      (published.isSome ∨ rows.audit.isSome ∨ rows.notification.isSome)
  | .fail w _ => ∃ x rest error row, s.sessions[w]? = some x ∧ x.rest = c :: rest ∧
      x.phase = .raised error ∧ ¬ s.Locked c.eventId ∧ s.events[c.eventId]? = some row ∧
      row.status = .processing
  | _ => False

/-- `recover_stale` finds no event that a worker which has not died has still to do. -/
def Action.RecoversAbandoned (s : State) : Action → Prop
  | .recover now leaseSeconds _ => ∀ x ∈ s.sessions, x.phase ≠ .dead → ∀ c ∈ x.rest, ∀ row,
      s.events[c.eventId]? = some row → ¬ row.Stale now leaseSeconds
  | _ => True

/-- The rows that the transaction of an event inserts are about the event. -/
lemma Claim.sideEffects_own {env : Env} {db : Db} {c : Claim} {rows : Inserted}
    (h : c.sideEffects env db = .ok rows) {k : Effect} {e : ℕ} (he : rows.effect k = some e) :
    c.eventId = e := by
  have hrows : (rows.audit = none ∨ ∃ account, rows.audit = some (c.auditEvent env account)) ∧
      (rows.notification = none ∨
        ∃ account, rows.notification = some (c.notification env account)) := by
    simp only [sideEffects] at h
    split_ifs at h
    · split at h
      · cases h
      · cases h
        exact ⟨.inr ⟨_, rfl⟩, .inr ⟨_, rfl⟩⟩
    · split at h
      · cases h
      · cases h
        exact ⟨.inl rfl, .inr ⟨_, rfl⟩⟩
    · cases h
      exact ⟨.inr ⟨_, rfl⟩, .inl rfl⟩
    · cases h
      exact ⟨.inl rfl, .inl rfl⟩
  obtain ⟨haudit, hnotification⟩ := hrows
  cases k with
  | audit =>
    rcases haudit with hnone | ⟨account, hsome⟩
    · simp [Inserted.effect, hnone] at he
    · simpa [Inserted.effect, hsome, auditEvent] using he
  | notification =>
    rcases hnotification with hnone | ⟨account, hsome⟩
    · simp [Inserted.effect, hnone] at he
    · simpa [Inserted.effect, hsome, notification] using he

lemma State.effect_of_absent {s : State} {rows : Inserted} {k : Effect} {e : ℕ}
    (h : (s.absent rows).effect k = some e) : rows.effect k = some e := by
  cases k with
  | audit =>
    obtain ⟨row, hrow, rfl⟩ := Option.map_eq_some_iff.mp h
    exact Option.map_eq_some_iff.mpr ⟨row, (Option.filter_eq_some_iff.mp hrow).1, rfl⟩
  | notification =>
    obtain ⟨row, hrow, rfl⟩ := Option.map_eq_some_iff.mp h
    exact Option.map_eq_some_iff.mpr ⟨row, (Option.filter_eq_some_iff.mp hrow).1, rfl⟩

/-! ### The invariant -/

/-- A worker holds the claims of what it has to do, except for an event that it has published and
not heard about. -/
structure Session.Leases (x : Session) (s : State) : Prop where
  head : ∀ c ∈ x.rest.head?, c.Current s ∨ (∃ error, x.phase = .raised error) ∧ c.Published s
  tail : ∀ c ∈ x.rest.tail, c.Current s
  nodup : (x.rest.map (·.eventId)).Nodup
  marked : ∀ rows published, x.phase = .marked rows published → published.isSome
  own : ∀ k e, x.phase.inserted.effect k = some e → ∃ c ∈ x.rest.head?, c.eventId = e

/-- The claims behind the head are current while no other row is touched. -/
lemma Session.Leases.current_rest {x : Session} {s s' : State} (h : x.Leases s) {c : Claim}
    {rest : List Claim} (hrest : x.rest = c :: rest)
    (hevents : ∀ e, c.eventId ≠ e → s'.events[e]? = s.events[e]?) : ∀ c' ∈ rest, c'.Current s' := by
  have hfresh : c.eventId ∉ rest.map (·.eventId) := by
    have hnodup := h.nodup
    rw [hrest] at hnodup
    exact (List.nodup_cons.mp hnodup).1
  intro c' hc'
  have hrow := hevents c'.eventId fun heq => hfresh (heq ▸ List.mem_map_of_mem hc')
  unfold Claim.Current
  rw [hrow]
  exact h.tail c' (by rw [hrest]; exact hc')

/-- A worker goes on to the next event. -/
lemma Session.Leases.advance {x y : Session} {s s' : State} (h : x.Leases s) {c : Claim}
    {rest : List Claim} (hrest : x.rest = c :: rest) (hy : y.rest = rest) (hidle : y.phase = .idle)
    (hevents : ∀ e, c.eventId ≠ e → s'.events[e]? = s.events[e]?) : y.Leases s' := by
  have hcurrent := h.current_rest hrest hevents
  have hnodup : (rest.map (·.eventId)).Nodup := by
    have hnodup := h.nodup
    rw [hrest] at hnodup
    exact (List.nodup_cons.mp hnodup).2
  refine ⟨fun c' hc' => .inl (hcurrent c' ?_), fun c' hc' => hcurrent c' ?_, hy ▸ hnodup, ?_, ?_⟩
  · exact hy ▸ List.mem_of_mem_head? hc'
  · exact hy ▸ List.mem_of_mem_tail hc'
  · intro rows published hphase
    cases hidle.symm.trans hphase
  · intro k e he
    rw [hidle] at he
    cases k <;> cases he

/-- The workers that have not died have different events to do. -/
def Apart (sessions : List Session) : Prop :=
  ∀ (w w' : ℕ) (x x' : Session), sessions[w]? = some x → sessions[w']? = some x' → w ≠ w' →
    x.phase ≠ .dead → x'.phase ≠ .dead → ∀ c ∈ x.rest, ∀ c' ∈ x'.rest, c.eventId ≠ c'.eventId

/-- The workers hold what they have to do, each its own, and only published events have effects. -/
structure State.Leased (s : State) : Prop where
  sessions : ∀ x ∈ s.sessions, x.phase ≠ .dead → x.Leases s
  apart : Apart s.sessions
  effects : ∀ k, ∀ e ∈ s.effects k, ∃ row, s.events[e]? = some row ∧ row.status = .published

/-- An event that a worker has to do is not pending. -/
lemma Session.Leases.held {x : Session} {s : State} (h : x.Leases s) {c : Claim} (hc : c ∈ x.rest) :
    ∃ row, s.events[c.eventId]? = some row ∧
      (row.status = .processing ∨ row.status = .published) := by
  obtain ⟨claimed, rest, phase, processed⟩ := x
  cases rest with
  | nil => cases hc
  | cons head tail =>
    rcases List.mem_cons.mp hc with rfl | hc
    · rcases h.head c rfl with ⟨row, hrow, hstatus, -⟩ | ⟨-, row, hrow, hstatus⟩
      · exact ⟨row, hrow, .inl hstatus⟩
      · exact ⟨row, hrow, .inr hstatus⟩
    · obtain ⟨row, hrow, hstatus, -⟩ := h.tail c hc
      exact ⟨row, hrow, .inl hstatus⟩

/-- A worker whose events are not touched keeps its leases. -/
lemma Session.Leases.frame {x : Session} {s s' : State} (h : x.Leases s)
    (hevents : ∀ c ∈ x.rest, s'.events[c.eventId]? = s.events[c.eventId]?) : x.Leases s' where
  head c hc := by
    have hrow := hevents c (List.mem_of_mem_head? hc)
    unfold Claim.Current Claim.Published
    rw [hrow]
    exact h.head c hc
  tail c hc := by
    have hrow := hevents c (List.mem_of_mem_tail hc)
    unfold Claim.Current
    rw [hrow]
    exact h.tail c hc
  nodup := h.nodup
  marked := h.marked
  own := h.own

/-- A worker's step that takes nothing on leaves the workers apart. -/
lemma Apart.set {sessions : List Session} (h : Apart sessions) {w : ℕ} {x y : Session}
    (hx : sessions[w]? = some x) (hrest : y.rest ⊆ x.rest)
    (hlive : y.phase ≠ .dead → x.phase ≠ .dead) : Apart (sessions.set w y) := by
  -- every worker of the new list was at its place with at least its events
  have hold : ∀ (v : ℕ) (z : Session), (sessions.set w y)[v]? = some z → z.phase ≠ .dead →
      ∃ z₀ : Session, sessions[v]? = some z₀ ∧ z₀.phase ≠ .dead ∧ z.rest ⊆ z₀.rest := by
    intro v z hz hdead
    rw [List.getElem?_set] at hz
    split_ifs at hz with hv hlt
    · subst hv
      obtain rfl := Option.some.inj hz
      exact ⟨x, hx, hlive hdead, hrest⟩
    · exact ⟨z, hz, hdead, List.Subset.refl _⟩
  intro v v' z z' hz hz' hne hdead hdead' c hc c' hc'
  obtain ⟨z₀, hz₀, hdead₀, hsub⟩ := hold v z hz hdead
  obtain ⟨z₀', hz₀', hdead₀', hsub'⟩ := hold v' z' hz' hdead'
  exact h v v' z₀ z₀' hz₀ hz₀' hne hdead₀ hdead₀' c (hsub hc) c' (hsub' hc')

/-- A worker that comes with other events is apart from the rest. -/
lemma Apart.append {sessions : List Session} (h : Apart sessions) {y : Session}
    (hy : ∀ x ∈ sessions, x.phase ≠ .dead → ∀ c ∈ x.rest, ∀ c' ∈ y.rest, c.eventId ≠ c'.eventId) :
    Apart (sessions ++ [y]) := by
  have hplace : ∀ (v : ℕ) (z : Session), (sessions ++ [y])[v]? = some z →
      sessions[v]? = some z ∨ v = sessions.length ∧ z = y := by
    intro v z hz
    rw [List.getElem?_append] at hz
    split_ifs at hz with hlt
    · exact .inl hz
    · obtain ⟨hlt', hz⟩ := List.getElem?_eq_some_iff.mp hz
      simp only [List.length_singleton, List.getElem_singleton] at hlt' hz
      exact .inr ⟨by omega, hz.symm⟩
  intro v v' z z' hz hz' hne hdead hdead' c hc c' hc'
  rcases hplace v z hz with hold | ⟨hv, rfl⟩ <;> rcases hplace v' z' hz' with hold' | ⟨hv', rfl⟩
  · exact h v v' z z' hold hold' hne hdead hdead' c hc c' hc'
  · exact hy z (List.mem_of_getElem? hold) hdead c hc c' hc'
  · exact (hy z' (List.mem_of_getElem? hold') hdead' c' hc' c hc).symm
  · exact absurd (hv.trans hv'.symm) hne

namespace State

lemma start_leased (db : Db) : (start db).Leased := by
  refine ⟨fun x hx => ?_, fun w w' x x' hx => ?_, fun k e he => ?_⟩
  · cases hx
  · simp [start] at hx
  · cases k <;> cases he

/-- What a step has to show when it leaves the effects alone. -/
lemma Leased.next {s s' : State} (h : s.Leased) (hevolves : s.Evolves s')
    (heffects : ∀ k, s'.effects k = s.effects k) (hapart : Apart s'.sessions)
    (hsessions : ∀ x ∈ s'.sessions, x.phase ≠ .dead → x.Leases s') : s'.Leased where
  sessions := hsessions
  apart := hapart
  effects k e he := by
    obtain ⟨row, hrow, hstatus⟩ := h.effects k e (heffects k ▸ he)
    obtain ⟨row', hrow', hbecomes⟩ := hevolves e row hrow
    exact ⟨row', hrow', by rw [hbecomes.final (.inl hstatus), hstatus]⟩

/-- A worker's step touches no event but the one at its head, so the others keep their leases. -/
lemma Leased.sessions_set {s s' : State} (h : s.Leased) {w : ℕ} {x y : Session}
    (hx : s.sessions[w]? = some x) (hs' : s'.sessions = s.sessions.set w y)
    (hevents : ∀ e, (x.phase ≠ .dead → ∀ c ∈ x.rest.head?, c.eventId ≠ e) →
      s'.events[e]? = s.events[e]?)
    (hy : y.phase ≠ .dead → y.Leases s') : ∀ z ∈ s'.sessions, z.phase ≠ .dead → z.Leases s' := by
  intro z hz hdead
  obtain ⟨v, hv⟩ := List.mem_iff_getElem?.mp hz
  rw [hs', List.getElem?_set] at hv
  split_ifs at hv with hw hlt
  · obtain rfl := Option.some.inj hv
    exact hy hdead
  · refine (h.sessions z (List.mem_of_getElem? hv) hdead).frame fun c hc => hevents _ ?_
    intro hlive c' hc'
    exact h.apart w v x z hx hv hw hlive hdead c' (List.mem_of_mem_head? hc') c hc

lemma step_leased {env : Env} {s s' : State} {a : Action} (h : s.Leased)
    (ha : a.RecoversAbandoned s) (hdoes : s.Does env a s') (hevolves : s.Evolves s') :
    s'.Leased := by
  cases hdoes with
  | rests => exact h
  | transacts =>
    refine h.next hevolves (fun k => by cases k <;> rfl) h.apart fun x hx hdead => ?_
    refine (h.sessions x hx hdead).frame fun c hc => ?_
    obtain ⟨row, hrow, -⟩ := (h.sessions x hx hdead).held hc
    exact List.getElem?_append_left (List.getElem?_eq_some_iff.mp hrow).1
  | @claims now locked limit =>
    have hold : ∀ x ∈ s.sessions, x.phase ≠ .dead → ∀ c ∈ x.rest,
        c.eventId ∉ due s.events now locked limit := by
      intro x hx hdead c hc hdue
      obtain ⟨row, hrow, hpending⟩ := mem_due hdue
      obtain ⟨row', hrow', hstatus⟩ := (h.sessions x hx hdead).held hc
      obtain rfl := Option.some.inj (hrow.symm.trans hrow')
      simp [hpending] at hstatus
    refine h.next hevolves (fun k => by cases k <;> rfl) (h.apart.append ?_) fun x hx hdead => ?_
    · intro x hx hdead c hc c' hc' heq
      exact hold x hx hdead c hc (heq ▸ (mem_claimBatch hc').1)
    · rcases List.mem_append.mp hx with hx | hx
      · refine (h.sessions x hx hdead).frame fun c hc => ?_
        refine (getElem?_claimBatch s.events now locked limit c.eventId).trans ?_
        simp [hold x hx hdead c hc]
      · obtain rfl := List.mem_singleton.mp hx
        have hcurrent : ∀ c ∈ (claimBatch s.events now locked limit).1,
            c.Current (s.claim now locked limit) := by
          intro c hc
          obtain ⟨hdue, row, hrow, -, hattempts⟩ := mem_claimBatch hc
          have hrow' := getElem?_claimBatch s.events now locked limit c.eventId
          rw [hrow, Option.map_some, if_pos hdue] at hrow'
          exact ⟨_, hrow', rfl, hattempts.symm⟩
        refine ⟨fun c hc => .inl (hcurrent c (List.mem_of_mem_head? hc)),
          fun c hc => hcurrent c (List.mem_of_mem_tail hc), ?_, by simp, fun k e he => ?_⟩
        · show ((claimBatch s.events now locked limit).1.map (·.eventId)).Nodup
          rw [claimBatch_eventIds]
          exact due_nodup s.events now locked limit
        · cases k <;> cases he
  | @records w x c rest rows hx hrest hphase hrows =>
    have hlive : x.phase ≠ .dead := by simp [hphase]
    refine h.next hevolves (fun k => by cases k <;> rfl) (h.apart.set hx (List.Subset.refl _)
      fun _ => hlive) (h.sessions_set hx rfl (fun _ _ => rfl) fun _ => ?_)
    have hleases := h.sessions x (List.mem_of_getElem? hx) hlive
    refine ⟨fun c' hc' => ?_, hleases.tail, hleases.nodup, by simp, fun k e he => ?_⟩
    · rcases hleases.head c' hc' with hcurrent | ⟨⟨error, herror⟩, -⟩
      · exact .inl hcurrent
      · cases hphase.symm.trans herror
    · exact ⟨c, by simp [hrest], Claim.sideEffects_own hrows (effect_of_absent he)⟩
  | @marks w now x c rest rows published hx hrest hphase hfree hfound =>
    have hlive : x.phase ≠ .dead := by simp [hphase]
    refine h.next hevolves (fun k => by cases k <;> rfl) (h.apart.set hx (List.Subset.refl _)
      fun _ => hlive) (h.sessions_set hx rfl (fun _ _ => rfl) fun _ => ?_)
    have hleases := h.sessions x (List.mem_of_getElem? hx) hlive
    have hcurrent : ∀ c' ∈ x.rest.head?, c'.Current s := by
      intro c' hc'
      rcases hleases.head c' hc' with hcurrent | ⟨⟨error, herror⟩, -⟩
      · exact hcurrent
      · cases hphase.symm.trans herror
    refine ⟨fun c' hc' => .inl (hcurrent c' hc'), hleases.tail, hleases.nodup, ?_, fun k e he => ?_⟩
    · rintro rows' published' heq
      obtain ⟨rfl, rfl⟩ : rows = rows' ∧ published = published' := by simpa using heq
      obtain ⟨row, hrow, hstatus, -⟩ := hcurrent c (by simp [hrest])
      exact hfound.mpr (by simp [hrow, hstatus])
    · exact hleases.own k e (by rw [hphase]; exact he)
  | @commits w lost x c rest rows published hx hrest hphase =>
    have hlive : x.phase ≠ .dead := by simp [hphase]
    have hleases := h.sessions x (List.mem_of_getElem? hx) hlive
    obtain ⟨now, rfl⟩ := Option.isSome_iff_exists.mp (hleases.marked rows published hphase)
    obtain ⟨row, hrow, hstatus, -⟩ : c.Current s := by
      rcases hleases.head c (by simp [hrest]) with hcurrent | ⟨⟨error, herror⟩, -⟩
      · exact hcurrent
      · cases hphase.symm.trans herror
    have hevents := getElem?_markPublished s.events now c.eventId
    have hother : ∀ e, c.eventId ≠ e →
        (s.commit w lost x c rest rows (some now)).events[e]? = s.events[e]? := by
      intro e hne
      exact (hevents e).trans (by simp [hne])
    have hpublished : ∃ row, (s.commit w lost x c rest rows (some now)).events[c.eventId]? =
        some row ∧ row.status = .published := by
      have hrow' := hevents c.eventId
      rw [hrow, Option.map_some, if_pos ⟨rfl, hstatus⟩] at hrow'
      exact ⟨_, hrow', rfl⟩
    refine ⟨?_, ?_, fun k e he => ?_⟩
    · refine h.sessions_set hx rfl (fun e he => hother e (he hlive c (by simp [hrest]))) fun _ => ?_
      cases lost with
      | none => exact hleases.advance hrest rfl rfl hother
      | some error =>
        -- the worker does not know that it has published the event
        refine ⟨fun c' hc' => ?_, fun c' hc' => ?_, hleases.nodup, by simp, fun k e he => ?_⟩
        · obtain rfl : c' = c := by simpa [hrest, eq_comm] using hc'
          exact .inr ⟨⟨error, rfl⟩, hpublished⟩
        · exact hleases.current_rest hrest hother c' (by simpa [hrest] using hc')
        · cases k <;> cases he
    · refine h.apart.set hx ?_ fun _ => hlive
      cases lost <;> simp [hrest]
    · rcases mem_effects_commit.mp he with hold | hnew
      · obtain ⟨row', hrow', hstatus'⟩ := h.effects k e hold
        obtain ⟨row'', hrow'', hbecomes⟩ := hevolves e row' hrow'
        exact ⟨row'', hrow'', by rw [hbecomes.final (.inl hstatus'), hstatus']⟩
      · obtain ⟨c', hc', rfl⟩ := hleases.own k e (by rw [hphase]; exact hnew)
        obtain rfl : c' = c := by simpa [hrest, eq_comm] using hc'
        exact hpublished
  | @fails w now x c rest error retry text events hx hrest hphase hfree hevents =>
    have hlive : x.phase ≠ .dead := by simp [hphase]
    have hother : ∀ e, c.eventId ≠ e → events[e]? = s.events[e]? := by
      intro e hne
      simp [getElem?_markFailed hevents, hne]
    refine h.next hevolves (fun k => by cases k <;> rfl) (h.apart.set hx (by simp [hrest])
      fun _ => hlive) (h.sessions_set hx rfl (fun e he => ?_) fun _ => ?_)
    · exact hother e (he hlive c (by simp [hrest]))
    · exact (h.sessions x (List.mem_of_getElem? hx) hlive).advance hrest rfl rfl hother
  | @stops a w x phase hx hphase =>
    have hlive : phase ≠ .dead → x.phase ≠ .dead := by
      rintro hne
      exact (hphase.resolve_left hne).1
    refine h.next hevolves (fun k => by cases k <;> rfl) (h.apart.set hx (List.Subset.refl _) hlive)
      (h.sessions_set hx rfl (fun _ _ => rfl) fun hne => ?_)
    obtain ⟨hx', error, rfl⟩ := hphase.resolve_left hne
    have hleases := h.sessions x (List.mem_of_getElem? hx) hx'
    refine ⟨fun c' hc' => ?_, hleases.tail, hleases.nodup, by simp, fun k e he => ?_⟩
    · exact (hleases.head c' hc').imp_right fun hpub => ⟨⟨error, rfl⟩, hpub.2⟩
    · cases k <;> cases he
  | @recovers now leaseSeconds maxAttempts n events hfree hrun =>
    refine h.next hevolves (fun k => by cases k <;> rfl) h.apart fun x hx hdead => ?_
    refine (h.sessions x hx hdead).frame fun c hc => ?_
    obtain ⟨row, hrow, -⟩ := (h.sessions x hx hdead).held hc
    have hfresh := ha x hx hdead c hc row hrow
    have hrow' := getElem?_recoverStale hrun c.eventId
    rw [hrow, Option.map_some, if_neg hfresh] at hrow'
    exact hrow'.trans hrow.symm

/-! ### Runs -/

/-- What applies does so under the current claim. -/
def Fenced (s : State) (a : Action) : Prop := ∀ c, s.Applies c a → c.Current s

lemma Leased.fenced {s : State} (h : s.Leased) (a : Action) : s.Fenced a := by
  intro c happlies
  cases a with
  | commit w lost =>
    obtain ⟨x, rest, rows, published, hx, hrest, hphase, -⟩ := happlies
    have hleases := h.sessions x (List.mem_of_getElem? hx) (by simp [hphase])
    rcases hleases.head c (by simp [hrest]) with hcurrent | ⟨⟨error, herror⟩, -⟩
    · exact hcurrent
    · cases hphase.symm.trans herror
  | fail w now =>
    obtain ⟨x, rest, error, row, hx, hrest, hphase, -, hrow, hprocessing⟩ := happlies
    have hleases := h.sessions x (List.mem_of_getElem? hx) (by simp [hphase])
    rcases hleases.head c (by simp [hrest]) with hcurrent | ⟨-, row', hrow', hpublished⟩
    · exact hcurrent
    · obtain rfl := Option.some.inj (hrow.symm.trans hrow')
      cases hprocessing.symm.trans hpublished
  | _ => exact False.elim happlies

/-- In a run in which only the claims of dead workers are recovered, whatever a worker commits or
marks it does under the current claim of the event, and a dead event has no effect. -/
theorem run_fenced {env : Env} {db : Db} {as : List Action}
    (has : Machine.Along (State.step env) (fun s a => a.RecoversAbandoned s) (.start db) as) :
    Machine.Along (State.step env) Fenced (.start db) as ∧
      ∀ (e : ℕ) (row : EventRow),
        (Machine.run (State.step env) (.start db) as).events[e]? = some row →
        row.status = .deadLetter →
        ∀ k, e ∉ (Machine.run (State.step env) (.start db) as).effects k := by
  have hstep : ∀ (s : State) (a : Action), s.Leased → a.RecoversAbandoned s →
      (s.step env a).Leased :=
    fun s a h ha => step_leased h ha (step_does env s a) (step_evolves env s a)
  refine ⟨has.of_invariant hstep (fun s a h _ => h.fenced a) (start_leased db), ?_⟩
  have hleased := has.invariant hstep (start_leased db)
  intro e row hrow hdead k he
  obtain ⟨row', hrow', hpublished⟩ := hleased.effects k e he
  obtain rfl := Option.some.inj (hrow.symm.trans hrow')
  cases hdead.symm.trans hpublished

end State

/-- A worker that dies, the recovery of its claim, and the worker that publishes the event. -/
theorem State.run_fenced_crash :
    let as := [.transact (.seeded .succeeded none) 0 [.sample], .claim 0 [] 50, .crash 0,
      .recover 100 60 5, .claim 100 [] 50, .record 1, .mark 1 100, .commit 1 none]
    Machine.Along (State.step .sample) State.Fenced (.start (.seeded .succeeded none)) as ∧
      ((Machine.run (State.step .sample) (.start (.seeded .succeeded none)) as).events.map
        (·.status)) = [.published] := by
  intro as
  have has : Machine.Along (State.step .sample) (fun s a => a.RecoversAbandoned s)
      (.start (.seeded .succeeded none)) as := by
    refine ⟨trivial, trivial, trivial, ?_, trivial, trivial, trivial, trivial, trivial⟩
    intro x hx hlive
    obtain rfl : x = ⟨[⟨.sample, 0, 1⟩], [⟨.sample, 0, 1⟩], .dead, 0⟩ := List.mem_singleton.mp hx
    exact absurd rfl hlive
  exact ⟨(State.run_fenced has).1, by decide +kernel⟩

/-- A worker is slow: its claim is recovered, another worker claims the event, and the first one's
error puts the event back under the second one's hands. -/
theorem State.run_unfenced :
    let s := Machine.run (State.step .sample) (.start (.seeded .succeeded none))
      [.transact (.seeded .succeeded none) 0 [.sample], .claim 0 [] 50, .recover 100 60 5,
        .claim 100 [] 50, .raise 0 "error"]
    ¬ s.Fenced (.fail 0 100) ∧
      s.events.map (fun row => (row.status, row.attempts)) = [(.processing, 2)] ∧
      (s.step .sample (.fail 0 100)).events.map (fun row => (row.status, row.attempts)) =
        [(.pending, 2)] := by
  intro s
  have hrow : s.events[0]?.map (fun row => (row.status, row.attempts)) =
      some (.processing, 2) := by
    decide +kernel
  obtain ⟨row, hrow, heq⟩ := Option.map_eq_some_iff.mp hrow
  obtain ⟨hstatus, hattempts⟩ := Prod.mk.inj heq
  refine ⟨fun h => ?_, by decide +kernel, by decide +kernel⟩
  obtain ⟨row', hrow', -, hfirst⟩ := h ⟨.sample, 0, 1⟩
    ⟨⟨[⟨.sample, 0, 1⟩], [⟨.sample, 0, 1⟩], .raised "error", 0⟩, [], "error", row, rfl, rfl, rfl,
      by decide +kernel, hrow, hstatus⟩
  obtain rfl := Option.some.inj (hrow.symm.trans hrow')
  rw [hattempts] at hfirst
  cases hfirst

end AgentPay.Outbox
