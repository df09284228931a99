import AgentPay.OutboxOnce
import AgentPay.OutboxLeases
import AgentPay.Support.Batch

/-!
# The rounds of the outbox

`process_once` while no other transaction is under way. An event is published with what it is to
insert, or it is put off because something is raised, and the events behind it are handled all the
same: so calls one after the other get through the queue, whichever of its events fail.
-/

namespace AgentPay.Outbox

open Support

/-! ### One call -/

/-- What `record_audit` and `enqueue_notification` insert, or the text of what is raised;
`inference` is what the server raises when it finds no index for the target of `ON CONFLICT`. -/
def Claim.insertions (env : Env) (inference : Option String) (db : Db) (c : Claim) :
    Except String Inserted :=
  match c.sideEffects env db with
  | .error error => .error error
  | .ok rows     =>
    match inference with
    | none       => .ok rows
    | some error =>
      if rows.audit.isSome || rows.notification.isSome then .error error else .ok rows

/-- A call of `process_once`: when it claims, when the transaction that ends an event takes place,
and its limit. -/
structure Turn where
  now : Time
  clock : ℕ → Time
  limit : ℕ

namespace State

/-- The two `INSERT … ON CONFLICT DO NOTHING`. -/
def insert (s : State) (rows : Inserted) : State :=
  { s with
    auditEvents := (rows.audit.bind s.auditEvents.insert?).getD s.auditEvents
    notifications := (rows.notification.bind s.notifications.insert?).getD s.notifications }

/-- The body of the loop in `process_once`, with the count. -/
def handle (env : Env) (inference : Option String) (clock : ℕ → Time) (loop : ℕ × State)
    (c : Claim) : Except Error Unit × (ℕ × State) :=
  let (processed, s) := loop
  match c.insertions env inference s.db with
  | .ok rows =>
    (.ok (), processed + 1,
      { s.insert rows with events := markPublished s.events (clock c.eventId) c.eventId })
  | .error error =>
    match markFailed s.events (clock c.eventId) c.eventId (retryAfter c.attempts)
        (some (String.ofList (error.toList.take 1000))) with
    | .error e   => (.error e, processed, s)
    | .ok events => (.ok (), processed, { s with events })

/-- A state with one more worker. -/
def enter (s : State) (x : Session) : State := { s with sessions := s.sessions ++ [x] }

/-- `process_once`, while `locked` are the rows that other transactions hold. The worker stays on
file, without anything to do. -/
def processOnce (env : Env) (inference : Option String) (locked : List ℕ) (s : State)
    (turn : Turn) : Except Error ℕ × State :=
  let (claimed, events) := claimBatch s.events turn.now locked turn.limit
  let (result, processed, s) := batch (handle env inference turn.clock) (0, { s with events })
    claimed
  (result.map fun _ => processed, s.enter ⟨claimed, [], .idle, processed⟩)

end State

/-! ### As steps of a worker -/

/-- No transaction of another worker is under way. -/
def State.Quiet (s : State) : Prop := ∀ x ∈ s.sessions, ¬ x.phase.Open

/-- The steps that worker `w` takes for an event. -/
def Claim.schedule (env : Env) (inference : Option String) (db : Db) (clock : ℕ → Time) (w : ℕ)
    (c : Claim) : List Action :=
  match c.sideEffects env db, c.insertions env inference db with
  | .error _, _       => [.record w, .fail w (clock c.eventId)]
  | .ok _, .ok _      => [.record w, .mark w (clock c.eventId), .commit w none]
  | .ok _, .error error => [.raise w error, .fail w (clock c.eventId)]

lemma State.markFailed_retryAfter (events : List EventRow) (now : Time) (e attempts : ℕ)
    (error : Option String) :
    ∃ events', markFailed events now e (retryAfter attempts) error = .ok events' := by
  have hretry : ¬ retryAfter attempts < 0 := by
    rw [retryAfter, not_lt]
    positivity
  rw [markFailed, if_neg hretry]
  exact ⟨_, rfl⟩

/-- A row that is not being processed is not published. -/
lemma markPublished_eq_self {events : List EventRow} {now : Time} {e : ℕ}
    (h : events[e]?.map (·.status) ≠ some .processing) : markPublished events now e = events := by
  refine List.ext_getElem? fun e' => ?_
  rw [getElem?_markPublished]
  cases hrow : events[e']? with
  | none => rfl
  | some row =>
    have hnot : ¬ (e = e' ∧ row.status = .processing) := by
      rintro ⟨rfl, hstatus⟩
      exact h (by rw [hrow, Option.map_some, hstatus])
    rw [Option.map_some, if_neg hnot]

namespace State

variable {env : Env} {inference : Option String} {s : State} {clock : ℕ → Time}

lemma insert_none {ρ : Type} {key : ρ → Option ℕ} {id : ρ → ℕ} (t : Table ρ key)
    (hkey : ∀ r, key r = some (id r)) (row : Option ρ) {p : ρ → Bool}
    (hp : ∀ r, p r = false → id r ∈ t.rows.map id) :
    ((row.filter p).bind t.insert?).getD t = (row.bind t.insert?).getD t := by
  cases row with
  | none => rfl
  | some row =>
    cases hrow : p row with
    | true => rw [Option.filter_some, hrow, if_pos rfl]
    | false =>
      obtain ⟨r, hr, hid⟩ := List.mem_map.mp (hp row hrow)
      have hnone : t.insert? row = none :=
        (Table.insert?_eq_none_iff (hkey row)).mpr ⟨r, hr, (hkey r).trans (congrArg some hid)⟩
      rw [Option.filter_some, hrow, if_neg (by simp), Option.bind_some, hnone]
      rfl

/-- A conflict leaves the row out. -/
lemma insert_absent (s : State) (rows : Inserted) : s.insert (s.absent rows) = s.insert rows := by
  have haudit := insert_none s.auditEvents (fun _ => rfl) rows.audit
    (p := fun row => decide (row.eventId ∉ s.effects .audit))
    fun _ hr => not_not.mp (of_decide_eq_false hr)
  have hnotification := insert_none s.notifications (fun _ => rfl) rows.notification
    (p := fun row => decide (row.sourceEventId ∉ s.effects .notification))
    fun _ hr => not_not.mp (of_decide_eq_false hr)
  simp only [insert, absent, haudit, hnotification]

@[simp] lemma enter_sessions (s : State) (x : Session) :
    (s.enter x).sessions[s.sessions.length]? = some x := by
  rw [enter, List.getElem?_concat_length]

lemma enter_put (s : State) (x y : Session) :
    (s.enter x).put s.sessions.length y = s.enter y := by
  simp [enter, put]

lemma Quiet.not_waits (h : s.Quiet) (rows : Inserted) {x : Session} (hx : ¬ x.phase.Open) :
    ¬ (s.enter x).Waits rows := by
  rintro ⟨y, hy, hconflict⟩
  have hshut : ¬ y.phase.Open := by
    rcases List.mem_append.mp hy with hy | hy
    · exact h y hy
    · obtain rfl := List.mem_singleton.mp hy
      exact hx
  have hnone : y.phase.inserted = ⟨none, none⟩ := by
    cases hphase : y.phase <;> simp_all [Phase.Open, Phase.inserted]
  rw [hnone] at hconflict
  rcases hconflict with ⟨hsome, heq⟩ | ⟨hsome, heq⟩
  · exact absurd (heq ▸ hsome) (by simp [Inserted.effect])
  · exact absurd (heq ▸ hsome) (by simp [Inserted.effect])

lemma Quiet.not_locked (h : s.Quiet) (e : ℕ) {x : Session} (hx : x.phase.locks = false) :
    ¬ (s.enter x).Locked e := by
  rintro ⟨y, hy, hlocks, -⟩
  rcases List.mem_append.mp hy with hy | hy
  · have hshut := h y hy
    cases hphase : y.phase <;> simp_all [Phase.Open, Phase.locks]
  · obtain rfl := List.mem_singleton.mp hy
    rw [hx] at hlocks
    cases hlocks

section

variable (h : s.Quiet) (claimed rest : List Claim) (c : Claim) (processed : ℕ)

include h

lemma Quiet.step_record {rows : Inserted} (hrows : c.sideEffects env s.db = .ok rows) :
    (s.enter ⟨claimed, c :: rest, .idle, processed⟩).step env (.record s.sessions.length) =
      s.enter ⟨claimed, c :: rest, .recorded (s.absent rows), processed⟩ := by
  have hwaits := h.not_waits rows (x := ⟨claimed, c :: rest, .idle, processed⟩) id
  have hside : c.sideEffects env (s.enter ⟨claimed, c :: rest, .idle, processed⟩).db = .ok rows :=
    hrows
  simp only [step, enter_sessions, record, hside]
  rw [if_neg hwaits, enter_put]
  rfl

omit h in
lemma step_record_raises {error : String} (hrows : c.sideEffects env s.db = .error error) :
    (s.enter ⟨claimed, c :: rest, .idle, processed⟩).step env (.record s.sessions.length) =
      s.enter ⟨claimed, c :: rest, .raised error, processed⟩ := by
  have hside : c.sideEffects env (s.enter ⟨claimed, c :: rest, .idle, processed⟩).db =
      .error error := hrows
  simp only [step, enter_sessions, record, hside]
  exact enter_put s _ _

omit h in
lemma step_raise (error : String) :
    (s.enter ⟨claimed, c :: rest, .idle, processed⟩).step env
        (.raise s.sessions.length error) =
      s.enter ⟨claimed, c :: rest, .raised error, processed⟩ := by
  simp only [step, enter_sessions]
  exact enter_put s _ _

lemma Quiet.step_mark (rows : Inserted) (now : Time) :
    (s.enter ⟨claimed, c :: rest, .recorded rows, processed⟩).step env
        (.mark s.sessions.length now) =
      s.enter ⟨claimed, c :: rest, .marked rows
        (if s.events[c.eventId]?.map (·.status) = some .processing then some now else none),
        processed⟩ := by
  have hfree := h.not_locked c.eventId (x := ⟨claimed, c :: rest, .recorded rows, processed⟩) rfl
  simp only [step, enter_sessions, mark]
  rw [if_neg hfree, enter_put]
  simp [enter]

omit h in
/-- A commit without a conflict that was not there when the rows were made. -/
lemma step_commit (rows : Inserted) (now : Time) :
    (s.enter ⟨claimed, c :: rest, .marked (s.absent rows)
        (if s.events[c.eventId]?.map (·.status) = some .processing then some now else none),
        processed⟩).step env (.commit s.sessions.length none) =
      { s.insert rows with events := markPublished s.events now c.eventId }.enter
        ⟨claimed, rest, .idle, processed + 1⟩ := by
  have hinsert := insert_absent s rows
  simp only [insert, State.mk.injEq, true_and, and_true] at hinsert
  simp only [step, enter_sessions, commit]
  by_cases hfound : s.events[c.eventId]?.map (·.status) = some .processing
  · simp [hfound, enter, insert, hinsert.1, hinsert.2]
  · simp [hfound, enter, insert, hinsert.1, hinsert.2, markPublished_eq_self hfound]

lemma Quiet.step_fail (error : String) (now : Time) {events : List EventRow}
    (hevents : markFailed s.events now c.eventId (retryAfter c.attempts)
      (some (String.ofList (error.toList.take 1000))) = .ok events) :
    (s.enter ⟨claimed, c :: rest, .raised error, processed⟩).step env
        (.fail s.sessions.length now) =
      { s with events }.enter ⟨claimed, rest, .idle, processed⟩ := by
  have hfree := h.not_locked c.eventId
    (x := ⟨claimed, c :: rest, .raised error, processed⟩) rfl
  have hrun : markFailed (s.enter ⟨claimed, c :: rest, .raised error, processed⟩).events now
      c.eventId (retryAfter c.attempts) (some (String.ofList (error.toList.take 1000))) =
        .ok events := hevents
  simp only [step, enter_sessions, fail, hrun]
  rw [if_neg hfree]
  simp [enter, put]

/-- The steps of a worker for the event it is at do what the loop does. -/
lemma Quiet.run_schedule (env : Env) (inference : Option String) (clock : ℕ → Time) :
    Machine.run (step env) (s.enter ⟨claimed, c :: rest, .idle, processed⟩)
        (c.schedule env inference s.db clock s.sessions.length) =
      (handle env inference clock (processed, s) c).2.2.enter
        ⟨claimed, rest, .idle, (handle env inference clock (processed, s) c).2.1⟩ := by
  have hfailed := markFailed_retryAfter s.events (clock c.eventId) c.eventId c.attempts
  simp only [Claim.schedule, handle, Claim.insertions]
  cases hside : c.sideEffects env s.db with
  | error error =>
    obtain ⟨events, hevents⟩ := hfailed (some (String.ofList (error.toList.take 1000)))
    simp only [hevents, Machine.run_cons, Machine.run_nil]
    rw [step_record_raises claimed rest c processed hside,
      h.step_fail claimed rest c processed error (clock c.eventId) hevents]
  | ok rows =>
    have hpublish : Machine.run (step env) (s.enter ⟨claimed, c :: rest, .idle, processed⟩)
        [.record s.sessions.length, .mark s.sessions.length (clock c.eventId),
          .commit s.sessions.length none] =
        { s.insert rows with
            events := markPublished s.events (clock c.eventId) c.eventId }.enter
          ⟨claimed, rest, .idle, processed + 1⟩ := by
      rw [Machine.run_cons, h.step_record claimed rest c processed hside, Machine.run_cons,
        h.step_mark claimed rest c processed, Machine.run_cons,
        step_commit claimed rest c processed, Machine.run_nil]
    cases inference with
    | none => exact hpublish
    | some error =>
      by_cases hinserts : (rows.audit.isSome || rows.notification.isSome) = true
      · obtain ⟨events, hevents⟩ := hfailed (some (String.ofList (error.toList.take 1000)))
        simp only [hinserts, if_true, hevents, Machine.run_cons, Machine.run_nil]
        rw [step_raise claimed rest c processed error,
          h.step_fail claimed rest c processed error (clock c.eventId) hevents]
      · simp only [hinserts, Bool.false_eq_true, if_false]
        exact hpublish

end

/-- What the loop leaves alone, and that it goes on whatever is raised. -/
lemma handle_keeps (env : Env) (inference : Option String) (clock : ℕ → Time) (processed : ℕ)
    (s : State) (c : Claim) :
    let r := handle env inference clock (processed, s) c
    r.1 = .ok () ∧ r.2.2.db = s.db ∧ r.2.2.sessions = s.sessions := by
  simp only [handle]
  cases c.insertions env inference s.db with
  | ok rows => exact ⟨rfl, rfl, rfl⟩
  | error error =>
    obtain ⟨events, hevents⟩ := markFailed_retryAfter s.events (clock c.eventId) c.eventId
      c.attempts (some (String.ofList (error.toList.take 1000)))
    simp [hevents]

lemma batch_handle_keeps (env : Env) (inference : Option String) (clock : ℕ → Time)
    (processed : ℕ) (s : State) (claims : List Claim) :
    let r := batch (handle env inference clock) (processed, s) claims
    r.1 = .ok claims.length ∧ r.2.2.db = s.db ∧ r.2.2.sessions = s.sessions := by
  induction claims generalizing s processed with
  | nil => exact ⟨rfl, rfl, rfl⟩
  | cons c claims ih =>
    obtain ⟨hok, hdb, hsessions⟩ := handle_keeps env inference clock processed s c
    simp only [batch]
    generalize handle env inference clock (processed, s) c = r at hok hdb hsessions
    obtain ⟨result, processed', s'⟩ := r
    obtain rfl : result = .ok () := hok
    obtain ⟨hcount, hdb', hsessions'⟩ := ih processed' s'
    refine ⟨?_, hdb'.trans hdb, hsessions'.trans hsessions⟩
    simp only [hcount]
    rfl

/-- The steps of a worker for its batch do what the loop does. -/
lemma Quiet.run_schedules (h : s.Quiet) (env : Env) (inference : Option String)
    (clock : ℕ → Time) (claimed rest : List Claim) (processed : ℕ) :
    let r := batch (handle env inference clock) (processed, s) rest
    Machine.run (step env) (s.enter ⟨claimed, rest, .idle, processed⟩)
        (rest.flatMap fun c => c.schedule env inference s.db clock s.sessions.length) =
      r.2.2.enter ⟨claimed, [], .idle, r.2.1⟩ := by
  induction rest generalizing s processed with
  | nil => rfl
  | cons c rest ih =>
    obtain ⟨hok, hdb, hsessions⟩ := handle_keeps env inference clock processed s c
    have hstep := h.run_schedule claimed rest c processed env inference clock
    rw [List.flatMap_cons, Machine.run_append, hstep]
    simp only [batch]
    generalize handle env inference clock (processed, s) c = r at hok hdb hsessions
    obtain ⟨result, processed', s'⟩ := r
    obtain rfl : result = .ok () := hok
    have hrun := ih (s := s') (fun x hx => h x (hsessions ▸ hx)) processed'
    rwa [show s'.db = s.db from hdb, show s'.sessions = s.sessions from hsessions] at hrun

/-- A call is a run of a worker that nothing interrupts. -/
lemma Quiet.run_processOnce (h : s.Quiet) (env : Env) (inference : Option String)
    (locked : List ℕ) (turn : Turn) :
    let s' := (processOnce env inference locked s turn).2
    s'.Quiet ∧ ∃ as, Machine.run (step env) s as = s' := by
  intro s'
  set claimed := (claimBatch s.events turn.now locked turn.limit).1
  set events := (claimBatch s.events turn.now locked turn.limit).2
  have hquiet : ({ s with events } : State).Quiet := h
  obtain ⟨-, -, hsessions⟩ :=
    batch_handle_keeps env inference turn.clock 0 { s with events } claimed
  have hrun : Machine.run (step env) s (.claim turn.now locked turn.limit :: claimed.flatMap
      fun c : Claim => c.schedule env inference s.db turn.clock s.sessions.length) = s' :=
    hquiet.run_schedules env inference turn.clock claimed claimed 0
  refine ⟨fun x hx => ?_, _, hrun⟩
  rcases List.mem_append.mp hx with hx | hx
  · exact h x (hsessions ▸ hx)
  · obtain rfl := List.mem_singleton.mp hx
    exact id

end State

/-! ### What becomes of the events -/

/-- The row of an event when its transaction has ended, at `now`. -/
def Claim.settle (env : Env) (inference : Option String) (db : Db) (now : Time) (c : Claim)
    (row : EventRow) : EventRow :=
  match c.insertions env inference db with
  | .ok _        => { row with status := .published, publishedAt := some now, processingAt := none }
  | .error error =>
    { row with
      status := .pending
      availableAt := now + (State.retryAfter c.attempts).toNat
      lastError := some (String.ofList (error.toList.take 1000))
      processingAt := none }

/-- The claim of a row that is due. -/
def EventRow.toClaim (row : EventRow) (e : ℕ) : Claim := ⟨row.toEvent, e, row.attempts + 1⟩

/-- The rows of which an event has the effect. -/
def Claim.Gets (env : Env) (inference : Option String) (db : Db) (c : Claim) (k : Effect) : Prop :=
  k.Due c.toEvent ∧ ∃ rows, c.insertions env inference db = .ok rows

/-- A row is inserted only where it is due. -/
lemma Claim.due_of_effect {env : Env} {db : Db} {c : Claim} {rows : Inserted} {k : Effect} {e : ℕ}
    (h : c.sideEffects env db = .ok rows) (he : rows.effect k = some e) : k.Due c.toEvent := by
  simp only [sideEffects] at h
  by_contra hdue
  cases k with
  | audit =>
    rw [if_neg (show ¬ c.eventType ∈ auditableEvents from hdue)] at h
    split_ifs at h
    · split at h
      · cases h
      · cases h
        cases he
    · cases h
      cases he
  | notification =>
    rw [if_neg (show ¬ c.eventType = "NotificationRequested" from hdue)] at h
    cases h
    cases he

namespace State

variable {env : Env} {inference : Option String} {s : State} {clock : ℕ → Time}

lemma handle_events (env : Env) (inference : Option String) (clock : ℕ → Time) (processed : ℕ)
    (s : State) (c : Claim) (e : ℕ) :
    (handle env inference clock (processed, s) c).2.2.events[e]? = s.events[e]?.map fun row =>
      if c.eventId = e ∧ row.status = .processing then
        c.settle env inference s.db (clock e) row
      else row := by
  simp only [handle, Claim.settle]
  cases c.insertions env inference s.db with
  | ok rows =>
    simp only [getElem?_markPublished]
    by_cases he : c.eventId = e <;> simp [he]
  | error error =>
    obtain ⟨events, hevents⟩ := markFailed_retryAfter s.events (clock c.eventId) c.eventId
      c.attempts (some (String.ofList (error.toList.take 1000)))
    simp only [hevents, getElem?_markFailed hevents]
    by_cases he : c.eventId = e <;> simp [he]

/-- What the transaction of an event is to insert is about it, and it is what is due. -/
lemma effect_insertions {c : Claim} {rows : Inserted}
    (h : c.insertions env inference s.db = .ok rows) (k : Effect) (e : ℕ) :
    rows.effect k = some e ↔ c.eventId = e ∧ k.Due c.toEvent := by
  obtain hside : c.sideEffects env s.db = .ok rows := by
    simp only [Claim.insertions] at h
    cases hside : c.sideEffects env s.db with
    | error error =>
      rw [hside] at h
      cases h
    | ok rows' =>
      rw [hside] at h
      cases inference with
      | none => exact h
      | some error =>
        simp only at h
        split_ifs at h
        exact h
  constructor
  · exact fun he => ⟨Claim.sideEffects_own hside he, Claim.due_of_effect hside he⟩
  · rintro ⟨rfl, hdue⟩
    exact Claim.sideEffects_due hside hdue

lemma handle_effects (env : Env) (inference : Option String) (clock : ℕ → Time) (processed : ℕ)
    (s : State) (c : Claim) (k : Effect) (e : ℕ) :
    e ∈ (handle env inference clock (processed, s) c).2.2.effects k ↔
      e ∈ s.effects k ∨ c.eventId = e ∧ c.Gets env inference s.db k := by
  simp only [handle, Claim.Gets]
  cases hinsert : c.insertions env inference s.db with
  | ok rows =>
    have hmem : e ∈ (s.insert rows).effects k ↔ e ∈ s.effects k ∨ rows.effect k = some e := by
      cases k with
      | audit => exact mem_keys_insert (fun _ => rfl) _ _ _
      | notification => exact mem_keys_insert (fun _ => rfl) _ _ _
    have heffects : ({ s.insert rows with
        events := markPublished s.events (clock c.eventId) c.eventId } : State).effects k =
          (s.insert rows).effects k := by
      cases k <;> rfl
    rw [heffects, hmem, effect_insertions hinsert]
    simp
  | error error =>
    obtain ⟨events, hevents⟩ := markFailed_retryAfter s.events (clock c.eventId) c.eventId
      c.attempts (some (String.ofList (error.toList.take 1000)))
    simp only [hevents]
    cases k <;> simp [effects]

/-- What a loop over events that are each claimed once makes of the rows. -/
lemma batch_handle_events (env : Env) (inference : Option String) (clock : ℕ → Time)
    (processed : ℕ) (s : State) {claims : List Claim}
    (hnodup : (claims.map (·.eventId)).Nodup) (e : ℕ) :
    (batch (handle env inference clock) (processed, s) claims).2.2.events[e]? =
      s.events[e]?.map fun row =>
        match claims.find? fun c => decide (c.eventId = e) with
        | none   => row
        | some c =>
          if row.status = .processing then c.settle env inference s.db (clock e) row else row := by
  induction claims generalizing s processed with
  | nil => simp
  | cons c claims ih =>
    obtain ⟨hok, hdb, -⟩ := handle_keeps env inference clock processed s c
    have hevents := handle_events env inference clock processed s c e
    obtain ⟨hnot, hnodup⟩ := List.nodup_cons.mp hnodup
    simp only [batch]
    generalize handle env inference clock (processed, s) c = r at hok hdb hevents
    obtain ⟨result, processed', s'⟩ := r
    obtain rfl : result = .ok () := hok
    simp only at hdb hevents ⊢
    rw [ih processed' s' hnodup, hevents, hdb, Option.map_map]
    congr 1
    funext row
    by_cases he : c.eventId = e
    · subst he
      have hnone : claims.find? (fun c' => decide (c'.eventId = c.eventId)) = none := by
        refine List.find?_eq_none.mpr fun c' hc' heq => hnot ?_
        exact List.mem_map.mpr ⟨c', hc', of_decide_eq_true heq⟩
      simp [hnone]
    · simp [he]

lemma batch_handle_effects (env : Env) (inference : Option String) (clock : ℕ → Time)
    (processed : ℕ) (s : State) (claims : List Claim) (k : Effect) (e : ℕ) :
    e ∈ (batch (handle env inference clock) (processed, s) claims).2.2.effects k ↔
      e ∈ s.effects k ∨ ∃ c ∈ claims, c.eventId = e ∧ c.Gets env inference s.db k := by
  induction claims generalizing s processed with
  | nil => simp
  | cons c claims ih =>
    obtain ⟨hok, hdb, -⟩ := handle_keeps env inference clock processed s c
    have heffects := handle_effects env inference clock processed s c k e
    simp only [batch]
    generalize handle env inference clock (processed, s) c = r at hok hdb heffects
    obtain ⟨result, processed', s'⟩ := r
    obtain rfl : result = .ok () := hok
    simp only at hdb heffects ⊢
    rw [ih, heffects, hdb]
    simp only [List.exists_mem_cons_iff]
    tauto

end State

/-- The claims of a batch are those of the rows that are due. -/
lemma mem_claimBatch_iff {events : List EventRow} {now : Time} {locked : List ℕ} {limit : ℕ}
    {c : Claim} : c ∈ (claimBatch events now locked limit).1 ↔
      c.eventId ∈ due events now locked limit ∧
        ∃ row, events[c.eventId]? = some row ∧ c = row.toClaim c.eventId := by
  constructor
  · intro hc
    obtain ⟨hdue, row, hrow, hevent, hattempts⟩ := mem_claimBatch hc
    refine ⟨hdue, row, hrow, ?_⟩
    obtain ⟨event, id, attempts⟩ := c
    simp only at hevent hattempts
    rw [EventRow.toClaim, hevent, hattempts]
  · rintro ⟨hdue, row, hrow, hc⟩
    refine List.mem_filterMap.mpr ⟨c.eventId, hdue, ?_⟩
    rw [hrow, Option.map_some]
    exact congrArg some hc.symm

lemma find?_claimBatch (events : List EventRow) (now : Time) (locked : List ℕ) (limit e : ℕ) :
    (claimBatch events now locked limit).1.find? (fun c => decide (c.eventId = e)) =
      if e ∈ due events now locked limit then events[e]?.map (·.toClaim e) else none := by
  cases hfound : (claimBatch events now locked limit).1.find? fun c => decide (c.eventId = e) with
  | some c =>
    have he : c.eventId = e := of_decide_eq_true (List.find?_some hfound :)
    obtain ⟨hdue, row, hrow, hc⟩ := mem_claimBatch_iff.mp (List.mem_of_find?_eq_some hfound)
    rw [he] at hdue hrow hc
    rw [if_pos hdue, hrow, Option.map_some, ← hc]
  | none =>
    by_cases hdue : e ∈ due events now locked limit
    · obtain ⟨row, hrow, -⟩ := mem_due hdue
      have hmem : row.toClaim e ∈ (claimBatch events now locked limit).1 :=
        mem_claimBatch_iff.mpr ⟨hdue, row, hrow, rfl⟩
      exact absurd (decide_eq_true rfl) (List.find?_eq_none.mp hfound _ hmem)
    · rw [if_neg hdue]

namespace State

variable (env : Env) (inference : Option String) (locked : List ℕ) (s : State) (turn : Turn)

/-- A call settles the rows that are due and leaves the others. -/
lemma processOnce_events (e : ℕ) :
    (processOnce env inference locked s turn).2.events[e]? = s.events[e]?.map fun row =>
      if e ∈ due s.events turn.now locked turn.limit then
        (row.toClaim e).settle env inference s.db (turn.clock e) (row.claim turn.now)
      else row := by
  have hnodup : ((claimBatch s.events turn.now locked turn.limit).1.map (·.eventId)).Nodup :=
    claimBatch_eventIds s.events turn.now locked turn.limit ▸
      due_nodup s.events turn.now locked turn.limit
  have hbatch := batch_handle_events env inference turn.clock 0
    { s with events := (claimBatch s.events turn.now locked turn.limit).2 } hnodup e
  refine hbatch.trans ?_
  rw [getElem?_claimBatch, Option.map_map, find?_claimBatch]
  cases hrow : s.events[e]? with
  | none => rfl
  | some row =>
    by_cases hdue : e ∈ due s.events turn.now locked turn.limit
    · simp only [hdue, if_true, Option.map_some, Function.comp_apply]
      rfl
    · simp only [hdue, if_false, Option.map_some, Function.comp_apply]

/-- The effects after a call. -/
lemma processOnce_effects (k : Effect) (e : ℕ) :
    e ∈ (processOnce env inference locked s turn).2.effects k ↔
      e ∈ s.effects k ∨ e ∈ due s.events turn.now locked turn.limit ∧
        ∃ row, s.events[e]? = some row ∧ (row.toClaim e).Gets env inference s.db k := by
  have hbatch := batch_handle_effects env inference turn.clock 0
    { s with events := (claimBatch s.events turn.now locked turn.limit).2 }
    (claimBatch s.events turn.now locked turn.limit).1 k e
  have hkept : ({ s with events := (claimBatch s.events turn.now locked turn.limit).2 } :
      State).effects k = s.effects k := by
    cases k <;> rfl
  have hentered : (processOnce env inference locked s turn).2.effects k =
      (batch (handle env inference turn.clock)
        (0, { s with events := (claimBatch s.events turn.now locked turn.limit).2 })
        (claimBatch s.events turn.now locked turn.limit).1).2.2.effects k := by
    cases k <;> rfl
  rw [hentered, hbatch, hkept]
  refine or_congr Iff.rfl ⟨?_, ?_⟩
  · rintro ⟨c, hc, rfl, hgets⟩
    obtain ⟨hdue, row, hrow, heq⟩ := mem_claimBatch_iff.mp hc
    exact ⟨hdue, row, hrow, heq ▸ hgets⟩
  · rintro ⟨hdue, row, hrow, hgets⟩
    exact ⟨row.toClaim e, mem_claimBatch_iff.mpr ⟨hdue, row, hrow, rfl⟩, rfl, hgets⟩

end State

/-! ### Calls one after the other -/

/-- What is due when nothing limits the batch. -/
def waiting (events : List EventRow) (now : Time) (locked : List ℕ) : List ℕ :=
  (List.range events.length).filter fun e =>
    match events[e]? with
    | none     => false
    | some row =>
      row.status = .pending && decide (row.availableAt ≤ now) && decide (e ∉ locked)

lemma due_eq (events : List EventRow) (now : Time) (locked : List ℕ) (limit : ℕ) :
    due events now locked limit = (waiting events now locked).take limit := rfl

lemma waiting_nodup (events : List EventRow) (now : Time) (locked : List ℕ) :
    (waiting events now locked).Nodup :=
  List.nodup_range.filter _

lemma mem_waiting {events : List EventRow} {now : Time} {locked : List ℕ} {e : ℕ} :
    e ∈ waiting events now locked ↔ ∃ row, events[e]? = some row ∧ row.status = .pending ∧
      row.availableAt ≤ now ∧ e ∉ locked := by
  rw [waiting, List.mem_filter, List.mem_range]
  cases hrow : events[e]? with
  | none => simp
  | some row =>
    have hlt := (List.getElem?_eq_some_iff.mp hrow).1
    simp [hlt, and_assoc]

/-- The calls between two times. -/
structure Turn.Within (start deadline : Time) (turn : Turn) : Prop where
  started : start ≤ turn.now
  ended : turn.now ≤ deadline
  clock : ∀ e, start ≤ turn.clock e

/-- No event comes up between the two times. -/
def Calm (start deadline : Time) (events : List EventRow) : Prop :=
  ∀ (e : ℕ) (row : EventRow), events[e]? = some row → row.status = .pending →
    row.availableAt ≤ start ∨ deadline < row.availableAt

/-- Between the two times the same events wait. -/
lemma Calm.waiting_eq {start deadline now : Time} {events : List EventRow}
    (h : Calm start deadline events) (hstart : start ≤ now) (hdeadline : now ≤ deadline)
    (locked : List ℕ) : waiting events now locked = waiting events start locked := by
  refine List.filter_congr fun e _ => ?_
  cases hrow : events[e]? with
  | none => rfl
  | some row =>
    by_cases hpending : row.status = .pending
    · have hiff : row.availableAt ≤ now ↔ row.availableAt ≤ start := by
        rcases h e row hrow hpending with hle | hlt
        · exact iff_of_true (hle.trans hstart) hle
        · exact iff_of_false (hdeadline.trans_lt hlt).not_ge
            ((hstart.trans hdeadline).trans_lt hlt).not_ge
      simp [hiff]
    · simp [hpending]

lemma two_le_retryAfter (attempts : ℕ) : 2 ≤ (State.retryAfter (attempts + 1)).toNat := by
  have hpow : (2 : ℤ) ^ 1 ≤ 2 ^ min (attempts + 1) 8 :=
    pow_le_pow_right₀ (by norm_num) (by omega)
  have hretry : (2 : ℤ) ≤ State.retryAfter (attempts + 1) := by
    rw [State.retryAfter, le_min_iff]
    exact ⟨by norm_num, hpow⟩
  omega

/-- An event that has been handled does not come up soon. -/
lemma availableAt_settle (env : Env) (inference : Option String) (db : Db) {t now : Time}
    (row : EventRow) (e : ℕ) :
    let row' := (row.toClaim e).settle env inference db t (row.claim now)
    row'.status = .pending → t + 2 ≤ row'.availableAt := by
  have hretry := two_le_retryAfter row.attempts
  simp only [Claim.settle]
  cases (row.toClaim e).insertions env inference db with
  | ok rows => simp
  | error error =>
    intro _
    exact Nat.add_le_add_left hretry t

namespace State

/-- What has become of a state when the events `served` have been handled, none before `start`. -/
structure Serves (env : Env) (inference : Option String) (start : Time) (served : List ℕ)
    (s s' : State) : Prop where
  db : s'.db = s.db
  settled : ∀ e ∈ served, ∃ t now, start ≤ t ∧ s'.events[e]? = s.events[e]?.map fun row =>
    (row.toClaim e).settle env inference s.db t (row.claim now)
  others : ∀ e ∉ served, s'.events[e]? = s.events[e]?
  effects : ∀ k e, e ∈ s'.effects k ↔ e ∈ s.effects k ∨ e ∈ served ∧
    ∃ row, s.events[e]? = some row ∧ (row.toClaim e).Gets env inference s.db k

variable {env : Env} {inference : Option String} {start : Time} {served served' : List ℕ}
  {s s' s'' : State}

lemma Serves.refl (s : State) : Serves env inference start [] s s where
  db := rfl
  settled e he := by cases he
  others e _ := rfl
  effects k e := by simp

lemma Serves.trans (h : Serves env inference start served s s')
    (h' : Serves env inference start served' s' s'') (hnodup : (served ++ served').Nodup) :
    Serves env inference start (served ++ served') s s'' where
  db := h'.db.trans h.db
  settled e he := by
    rcases List.mem_append.mp he with he | he
    · obtain ⟨t, now, ht, hrow⟩ := h.settled e he
      have hnot : e ∉ served' := fun he' => (List.nodup_append.mp hnodup).2.2 e he e he' rfl
      exact ⟨t, now, ht, (h'.others e hnot).trans hrow⟩
    · obtain ⟨t, now, ht, hrow⟩ := h'.settled e he
      have hnot : e ∉ served := fun he' => (List.nodup_append.mp hnodup).2.2 e he' e he rfl
      refine ⟨t, now, ht, ?_⟩
      rw [hrow, h.others e hnot, h.db]
  others e he := by
    rw [List.mem_append, not_or] at he
    exact (h'.others e he.2).trans (h.others e he.1)
  effects k e := by
    rw [h'.effects, h.effects, h.db, List.mem_append]
    have hsame : e ∈ served' → s'.events[e]? = s.events[e]? := fun he =>
      h.others e fun he' => (List.nodup_append.mp hnodup).2.2 e he' e he rfl
    constructor
    · rintro ((hold | ⟨he, hgets⟩) | ⟨he, hgets⟩)
      · exact .inl hold
      · exact .inr ⟨.inl he, hgets⟩
      · exact .inr ⟨.inr he, hsame he ▸ hgets⟩
    · rintro (hold | ⟨he | he, hgets⟩)
      · exact .inl (.inl hold)
      · exact .inl (.inr ⟨he, hgets⟩)
      · exact .inr ⟨he, (hsame he).symm ▸ hgets⟩

/-- One call serves the first of the events that wait, and leaves the others waiting. -/
lemma processOnce_serves (env : Env) (inference : Option String) (locked : List ℕ)
    {start deadline : Time} (hshort : deadline < start + 2) (hcalm : Calm start deadline s.events)
    {turn : Turn} (hturn : turn.Within start deadline) :
    let s' := (processOnce env inference locked s turn).2
    let queue := waiting s.events start locked
    Serves env inference start (queue.take turn.limit) s s' ∧ Calm start deadline s'.events ∧
      waiting s'.events start locked = queue.drop turn.limit := by
  intro s' queue
  have hdue : due s.events turn.now locked turn.limit = queue.take turn.limit := by
    rw [due_eq, hcalm.waiting_eq hturn.started hturn.ended]
  have hevents : ∀ e, s'.events[e]? = s.events[e]?.map fun row =>
      if e ∈ queue.take turn.limit then
        (row.toClaim e).settle env inference s.db (turn.clock e) (row.claim turn.now)
      else row := fun e => hdue ▸ processOnce_events env inference locked s turn e
  have hserves : Serves env inference start (queue.take turn.limit) s s' :=
    { db := (batch_handle_keeps env inference turn.clock 0 _ _).2.1
      settled := fun e he => ⟨turn.clock e, turn.now, hturn.clock e, by
        simpa only [he, if_true] using hevents e⟩
      others := fun e he => by simpa only [he, if_false, Option.map_id'] using hevents e
      effects := fun k e => hdue ▸ processOnce_effects env inference locked s turn k e }
  have hlate : ∀ e ∈ queue.take turn.limit, ∀ row', s'.events[e]? = some row' →
      row'.status = .pending → deadline < row'.availableAt := by
    intro e he row' hrow' hpending
    have hrow := hevents e
    simp only [he, if_true] at hrow
    obtain ⟨row, -, rfl⟩ := Option.map_eq_some_iff.mp (hrow.symm.trans hrow')
    calc deadline < start + 2 := hshort
      _ ≤ turn.clock e + 2 := Nat.add_le_add_right (hturn.clock e) 2
      _ ≤ _ := availableAt_settle env inference s.db row e hpending
  refine ⟨hserves, ?_, ?_⟩
  · intro e row' hrow' hpending
    by_cases he : e ∈ queue.take turn.limit
    · exact .inr (hlate e he row' hrow' hpending)
    · exact hcalm e row' (hserves.others e he ▸ hrow') hpending
  · have hlength : s'.events.length = s.events.length := by
      refine eq_of_forall_ge_iff fun e => ?_
      rw [← List.getElem?_eq_none_iff, ← List.getElem?_eq_none_iff, hevents, Option.map_eq_none_iff]
    have hmem : ∀ e, e ∈ waiting s'.events start locked ↔
        e ∈ queue ∧ e ∉ queue.take turn.limit := by
      intro e
      by_cases he : e ∈ queue.take turn.limit
      · refine iff_of_false (fun hwaits => ?_) fun h => h.2 he
        obtain ⟨row', hrow', hpending, hle, -⟩ := mem_waiting.mp hwaits
        exact absurd (hle.trans (hturn.started.trans hturn.ended))
          (hlate e he row' hrow' hpending).not_ge
      · simp only [he, not_false_iff, and_true, queue, mem_waiting, hserves.others e he]
    rw [waiting, hlength] at hmem ⊢
    exact filter_eq_drop List.nodup_range turn.limit fun e _ => hmem e

/-- Calls of `process_once` one after the other, while no other transaction is under way and no
event comes up. As many of the events that wait are handled, the oldest first, as the limits of the
calls allow: each is published and has what it is to have, or is put off because its transaction
raised. The others are still waiting, and it is all a run of the workers. -/
theorem run_turns (env : Env) (inference : Option String) (locked : List ℕ) {s : State}
    (hquiet : s.Quiet) {start deadline : Time} (hshort : deadline < start + 2)
    (hcalm : Calm start deadline s.events) {turns : List Turn}
    (hturns : ∀ turn ∈ turns, turn.Within start deadline) :
    let s' := Machine.run (fun s turn => (processOnce env inference locked s turn).2) s turns
    let queue := waiting s.events start locked
    let reach := (turns.map Turn.limit).sum
    Serves env inference start (queue.take reach) s s' ∧
      waiting s'.events start locked = queue.drop reach ∧
      ∃ as, Machine.run (step env) s as = s' := by
  induction turns generalizing s with
  | nil => exact ⟨.refl s, rfl, [], rfl⟩
  | cons turn turns ih =>
    intro s' queue reach
    obtain ⟨hserves, hcalm', hqueue⟩ := processOnce_serves env inference locked hshort hcalm
      (hturns turn List.mem_cons_self)
    obtain ⟨hquiet', as, hrun⟩ := hquiet.run_processOnce env inference locked turn
    obtain ⟨hserves', hqueue', as', hrun'⟩ := ih hquiet' hcalm' fun turn' hturn' =>
      hturns turn' (List.mem_cons_of_mem turn hturn')
    have hreach : queue.take reach = queue.take turn.limit ++
        (queue.drop turn.limit).take (turns.map Turn.limit).sum := List.take_add
    rw [hqueue] at hserves' hqueue'
    refine ⟨?_, ?_, as ++ as', ?_⟩
    · rw [hreach]
      refine hserves.trans hserves' ?_
      rw [← hreach]
      exact (waiting_nodup s.events start locked).sublist (List.take_sublist _ _)
    · rw [List.drop_drop] at hqueue'
      exact hqueue'
    · rw [Machine.run_append, hrun]
      exact hrun'

/-- Two events, and the first has no account to notify. -/
def poisoned : State :=
  State.step .sample (.start (.seeded .succeeded none)) <|
    .transact (.seeded .succeeded none) 0
      [{ Event.sample with eventType := "NotificationRequested", aggregateId := 7 }, .sample]

/-- The second is published by the second of two calls. -/
theorem run_turns_poisoned :
    let turn : Turn := ⟨0, fun _ => 0, 1⟩
    let s' := Machine.run (fun s turn => (processOnce .sample none [] s turn).2) poisoned
      [turn, turn]
    (Serves .sample none 0 ((waiting poisoned.events 0 []).take 2) poisoned s' ∧
      waiting s'.events 0 [] = (waiting poisoned.events 0 []).drop 2 ∧
      ∃ as, Machine.run (step .sample) poisoned as = s') ∧
    s'.events.map (·.status) = [.pending, .published] := by
  intro turn s'
  have hquiet : poisoned.Quiet := fun x hx => by cases hx
  have hrows : ∀ row ∈ poisoned.events, row.availableAt ≤ 0 := by decide +kernel
  have hcalm : Calm 0 0 poisoned.events := fun e row hrow _ =>
    .inl (hrows row (List.mem_of_getElem? hrow))
  have hturns : ∀ turn' ∈ [turn, turn], turn'.Within 0 0 := by
    intro turn' hturn'
    obtain rfl : turn' = turn := by simpa using hturn'
    exact ⟨le_refl 0, le_refl 0, fun _ => le_refl 0⟩
  exact ⟨run_turns .sample none [] hquiet (by decide) hcalm hturns, by decide +kernel⟩

end State

end AgentPay.Outbox
