import AgentPay.Authorization
import AgentPay.Schema
import AgentPay.Support.Machine

/-!
# The outbox and its worker

A producer enqueues events in its own transaction. `process_once` claims a batch in one transaction
and handles each event of it in another, where the audit or notification row and `mark_published`
are committed together; an exception is turned into `mark_failed` in a third. `recover_stale` takes
claims back by their age alone.
-/

namespace AgentPay.Outbox

open Support

/-! ### Rows -/

inductive EventStatus where
  | pending
  | processing
  | published
  | deadLetter
  deriving DecidableEq, Repr

/-- What a producer enqueues. -/
structure Event where
  eventType : String
  aggregateType : String
  aggregateId : PaymentId
  payload : List (String × Json)
  correlationId : Option String

/-- A row of `outbox_events`. Its id is its position. -/
structure EventRow extends Event where
  status : EventStatus
  attempts : ℕ
  availableAt : Time
  publishedAt : Option Time
  processingAt : Option Time
  lastError : Option String

/-- `enqueue` -/
def enqueue (now : Time) (event : Event) : EventRow :=
  { event with
    status := .pending
    attempts := 0
    availableAt := now
    publishedAt := none
    processingAt := none
    lastError := none }

/-- What `claim_batch` returns of a row. -/
structure Claim extends Event where
  eventId : ℕ
  attempts : ℕ

/-- The subquery of `claim_batch`; `locked` are the rows that other transactions hold. -/
def due (events : List EventRow) (now : Time) (locked : List ℕ) (limit : ℕ) : List ℕ :=
  ((List.range events.length).filter fun e =>
    match events[e]? with
    | none     => false
    | some row =>
      row.status = .pending && decide (row.availableAt ≤ now) && decide (e ∉ locked)).take limit

/-- The update of `claim_batch`. -/
def EventRow.claim (row : EventRow) (now : Time) : EventRow :=
  { row with status := .processing, attempts := row.attempts + 1, processingAt := some now }

/-- `claim_batch` -/
def claimBatch (events : List EventRow) (now : Time) (locked : List ℕ) (limit : ℕ) :
    List Claim × List EventRow :=
  let ids := due events now locked limit
  (ids.filterMap fun e => events[e]?.map fun row => ⟨row.toEvent, e, row.attempts + 1⟩,
    events.mapIdx fun e row => if e ∈ ids then row.claim now else row)

/-- `mark_published` -/
def markPublished (events : List EventRow) (now : Time) (eventId : ℕ) : List EventRow :=
  events.modify eventId fun row =>
    if row.status = .processing then
      { row with status := .published, publishedAt := some now, processingAt := none }
    else row

/-- `mark_failed` -/
def markFailed (events : List EventRow) (now : Time) (eventId : ℕ) (retryAfterSeconds : ℤ)
    (error : Option String) : Except Error (List EventRow) :=
  if retryAfterSeconds < 0 then throw (.valueError "retry_after_seconds must be non-negative")
  else
    return events.modify eventId fun row =>
      if row.status = .processing then
        { row with
          status := .pending
          availableAt := now + retryAfterSeconds.toNat
          lastError := error
          processingAt := none }
      else row

/-- `status='PROCESSING' AND processing_at < now() - lease` -/
def EventRow.Stale (row : EventRow) (now : Time) (leaseSeconds : ℤ) : Prop :=
  row.status = .processing ∧ ∃ at' ∈ row.processingAt, (at' : ℤ) < now - leaseSeconds

instance (row : EventRow) (now : Time) (leaseSeconds : ℤ) :
    Decidable (row.Stale now leaseSeconds) := by
  unfold EventRow.Stale
  infer_instance

/-- The update of `recover_stale`. -/
def EventRow.recover (row : EventRow) (now : Time) (maxAttempts : ℤ) : EventRow :=
  { row with
    status := if maxAttempts ≤ row.attempts then .deadLetter else .pending
    availableAt := now
    processingAt := none
    lastError := some (row.lastError.getD "worker lease expired") }

/-- `recover_stale` -/
def recoverStale (events : List EventRow) (now : Time) (leaseSeconds maxAttempts : ℤ) :
    Except Error (ℕ × List EventRow) :=
  if leaseSeconds < 1 ∨ maxAttempts < 1 then
    throw (.valueError "lease_seconds and max_attempts must be positive")
  else
    return (events.countP fun row => row.Stale now leaseSeconds,
      events.map fun row => if row.Stale now leaseSeconds then row.recover now maxAttempts else row)

/-! ### Side effects -/

/-- A row of `audit_events`, which is unique on `event_id`. -/
structure AuditEvent where
  eventId : ℕ
  accountId : Option String
  actorType : String
  actorReference : String
  action : String
  resourceType : String
  resourceId : PaymentId
  result : String
  correlationId : Option String
  metadata : Json
  immutableDigest : String

def AuditEvent.key (row : AuditEvent) : Option ℕ := some row.eventId

/-- A row of `notifications`, which is unique on `source_event_id`. -/
structure Notification where
  accountId : String
  type : String
  title : String
  payload : Json
  sourceEventId : ℕ

def Notification.key (row : Notification) : Option ℕ := some row.sourceEventId

/-- `digest` is `_digest`, and `str` is `str` of a document. -/
structure Env where
  digest : Json → String
  str : Json → String

/-- `AUDITABLE_EVENTS` -/
def auditableEvents : List String :=
  ["PaymentRequested", "PaymentStarted", "PaymentSucceeded", "PaymentFailed",
    "PaymentOutcomeUnknown", "ApprovalRequested", "PaymentApproved",
    "PaymentDenied", "PaymentRefunded", "PaymentRefundRequested",
    "PaymentAuthenticationRequired", "PaymentAuthenticationCompleted",
    "BudgetReservationCreated", "BudgetReservationReleased", "BudgetConsumed"]

/-- `_account_for` -/
def accountFor (db : Db) (aggregateType : String) (aggregateId : PaymentId) : Option String := do
  if aggregateType = "payment" then
    let payment ← db.payments.get? aggregateId
    let request ← db.paymentRequests.get? payment.paymentRequestId
    return request.accountId
  else none

/-- The rows that the transaction of an event inserts. -/
structure Inserted where
  audit : Option AuditEvent
  notification : Option Notification

def Claim.auditEvent (env : Env) (c : Claim) (accountId : Option String) : AuditEvent where
  eventId := c.eventId
  accountId := accountId
  actorType := "SYSTEM"
  actorReference := "agent-pay-outbox"
  action := c.eventType
  resourceType := c.aggregateType
  resourceId := c.aggregateId
  result := "RECORDED"
  correlationId := c.correlationId
  metadata := .object c.payload
  immutableDigest := env.digest (.object c.payload)

def Claim.notification (env : Env) (c : Claim) (accountId : String) : Notification where
  accountId := accountId
  type :=
    match c.payload.lookup "type" with
    | none              => "PAYMENT"
    | some (.text type) => type
    | some value        => env.str value
  title := "Agent-Pay payment notification"
  payload := .object c.payload
  sourceEventId := c.eventId

/-- What `process_once` hands to `record_audit` and `enqueue_notification`, or the text of what it
raises. -/
def Claim.sideEffects (env : Env) (db : Db) (c : Claim) : Except String Inserted :=
  let accountId := accountFor db c.aggregateType c.aggregateId
  let audit := if c.eventType ∈ auditableEvents then some (c.auditEvent env accountId) else none
  if c.eventType = "NotificationRequested" then
    match accountId with
    | none         => throw "notification event has no account"
    | some account => return ⟨audit, some (c.notification env account)⟩
  else return ⟨audit, none⟩

/-! ### Workers -/

/-- Where a worker is with the event at the head of what it has still to do. -/
inductive Phase where
  | idle
  /-- The rows are inserted and not committed. -/
  | recorded (rows : Inserted)
  /-- `mark_published` has run: `published` when it has found the row, which stays locked. -/
  | marked (rows : Inserted) (published : Option Time)
  /-- The transaction is rolled back, and `mark_failed` is next. -/
  | raised (error : String)
  /-- The process has died. -/
  | dead

/-- One call of `process_once`: what it has claimed, what of it is still to do, and its count. -/
structure Session where
  claimed : List Claim
  rest : List Claim
  phase : Phase
  processed : ℕ

/-- The uncommitted rows of a worker. -/
def Phase.inserted : Phase → Inserted
  | .recorded rows | .marked rows _ => rows
  | _ => ⟨none, none⟩

/-- The transaction of an event is under way. -/
def Phase.Open : Phase → Prop
  | .recorded _ | .marked _ _ => True
  | _ => False

/-- Whether a worker keeps the event at its head locked. -/
def Phase.locks : Phase → Bool
  | .marked _ published => published.isSome
  | _ => false

def Session.Locks (x : Session) (e : ℕ) : Prop :=
  x.phase.locks = true ∧ ∃ c ∈ x.rest.head?, c.eventId = e

instance (x : Session) (e : ℕ) : Decidable (x.Locks e) := by
  unfold Session.Locks
  infer_instance

structure State where
  db : Db
  events : List EventRow
  auditEvents : Table AuditEvent AuditEvent.key
  notifications : Table Notification Notification.key
  sessions : List Session

def State.start (db : Db) : State := ⟨db, [], .empty, .empty, []⟩

inductive Action where
  /-- A producer's transaction. -/
  | transact (db : Db) (now : Time) (events : List Event)
  | claim (now : Time) (locked : List ℕ) (limit : ℕ)
  | record (worker : ℕ)
  | mark (worker : ℕ) (now : Time)
  /-- The commit, with the text of the exception when its answer is lost. -/
  | commit (worker : ℕ) (lost : Option String)
  /-- A statement of the transaction raises: the connection is lost, a constraint fails, or the
  server finds no index for the target of `ON CONFLICT`. -/
  | raise (worker : ℕ) (error : String)
  | fail (worker : ℕ) (now : Time)
  | crash (worker : ℕ)
  | recover (now : Time) (leaseSeconds maxAttempts : ℤ)

/-- The two kinds of side effect. -/
inductive Effect where
  | audit
  | notification
  deriving DecidableEq, Repr

/-- Whether an event is to have the effect. -/
def Effect.Due : Effect → Event → Prop
  | .audit, event        => event.eventType ∈ auditableEvents
  | .notification, event => event.eventType = "NotificationRequested"

instance (k : Effect) (event : Event) : Decidable (k.Due event) := by
  cases k <;> unfold Effect.Due <;> infer_instance

/-- The event that an uncommitted row is about. -/
def Inserted.effect (rows : Inserted) : Effect → Option ℕ
  | .audit        => rows.audit.map (·.eventId)
  | .notification => rows.notification.map (·.sourceEventId)

namespace State

/-- The events with a committed effect. -/
def effects (s : State) : Effect → List ℕ
  | .audit        => s.auditEvents.rows.map (·.eventId)
  | .notification => s.notifications.rows.map (·.sourceEventId)

/-- `ON CONFLICT DO NOTHING`: what of the rows is not in the tables. -/
def absent (s : State) (rows : Inserted) : Inserted where
  audit := rows.audit.filter fun row => row.eventId ∉ s.effects .audit
  notification := rows.notification.filter fun row => row.sourceEventId ∉ s.effects .notification

/-- Another transaction has inserted one of the keys and is not committed. -/
def Waits (s : State) (rows : Inserted) : Prop :=
  ∃ x ∈ s.sessions, (rows.effect .audit).isSome ∧
      x.phase.inserted.effect .audit = rows.effect .audit ∨
    (rows.effect .notification).isSome ∧
      x.phase.inserted.effect .notification = rows.effect .notification

instance (s : State) (rows : Inserted) : Decidable (s.Waits rows) := by
  unfold Waits
  infer_instance

/-- Another transaction has updated the row and is not committed. -/
def Locked (s : State) (e : ℕ) : Prop := ∃ x ∈ s.sessions, x.Locks e

instance (s : State) (e : ℕ) : Decidable (s.Locked e) := by
  unfold Locked
  infer_instance

def put (s : State) (w : ℕ) (x : Session) : State := { s with sessions := s.sessions.set w x }

def claim (s : State) (now : Time) (locked : List ℕ) (limit : ℕ) : State :=
  let (claimed, events) := claimBatch s.events now locked limit
  { s with events, sessions := s.sessions ++ [⟨claimed, claimed, .idle, 0⟩] }

def record (env : Env) (s : State) (w : ℕ) (x : Session) (c : Claim) : State :=
  match c.sideEffects env s.db with
  | .error error => s.put w { x with phase := .raised error }
  | .ok rows     =>
    if s.Waits rows then s
    else s.put w { x with phase := .recorded (s.absent rows) }

def mark (s : State) (w : ℕ) (now : Time) (x : Session) (c : Claim) (rows : Inserted) : State :=
  if s.Locked c.eventId then s
  else
    let found := (s.events[c.eventId]?.map (·.status)) = some .processing
    s.put w { x with phase := .marked rows (if found then some now else none) }

def commit (s : State) (w : ℕ) (lost : Option String) (x : Session) (c : Claim) (rest : List Claim)
    (rows : Inserted) (published : Option Time) : State where
  db := s.db
  events :=
    match published with
    | none     => s.events
    | some now => markPublished s.events now c.eventId
  auditEvents := (rows.audit.bind s.auditEvents.insert?).getD s.auditEvents
  notifications := (rows.notification.bind s.notifications.insert?).getD s.notifications
  sessions := s.sessions.set w <|
    match lost with
    | none       => { x with rest, phase := .idle, processed := x.processed + 1 }
    | some error => { x with phase := .raised error }

/-- `min(300, 2 ** min(attempts, 8))` -/
def retryAfter (attempts : ℕ) : ℤ := min 300 (2 ^ min attempts 8)

def fail (s : State) (w : ℕ) (now : Time) (x : Session) (c : Claim) (rest : List Claim)
    (error : String) : State :=
  if s.Locked c.eventId then s
  else
    match markFailed s.events now c.eventId (retryAfter c.attempts)
        (some (String.ofList (error.toList.take 1000))) with
    | .error _   => s.put w { x with phase := .dead }
    | .ok events => { s with events }.put w { x with rest, phase := .idle }

def recover (s : State) (now : Time) (leaseSeconds maxAttempts : ℤ) : State :=
  if ∃ e < s.events.length, s.Locked e ∧ ∃ row ∈ s.events[e]?, row.Stale now leaseSeconds then s
  else
    match recoverStale s.events now leaseSeconds maxAttempts with
    | .error _        => s
    | .ok (_, events) => { s with events }

/-- A step of a worker that has an event to do. -/
def step (env : Env) (s : State) : Action → State
  | .transact db now events => { s with db, events := s.events ++ events.map (enqueue now) }
  | .claim now locked limit => s.claim now locked limit
  | .record w =>
    match s.sessions[w]? with
    | some x@⟨_, c :: _, .idle, _⟩ => s.record env w x c
    | _ => s
  | .mark w now =>
    match s.sessions[w]? with
    | some x@⟨_, c :: _, .recorded rows, _⟩ => s.mark w now x c rows
    | _ => s
  | .commit w lost =>
    match s.sessions[w]? with
    | some x@⟨_, c :: rest, .marked rows published, _⟩ => s.commit w lost x c rest rows published
    | _ => s
  | .raise w error =>
    match s.sessions[w]? with
    | some ⟨_, _, .dead, _⟩ | some ⟨_, [], _, _⟩ | some ⟨_, _, .raised _, _⟩ | none => s
    | some x => s.put w { x with phase := .raised error }
  | .fail w now =>
    match s.sessions[w]? with
    | some x@⟨_, c :: rest, .raised error, _⟩ => s.fail w now x c rest error
    | _ => s
  | .crash w =>
    match s.sessions[w]? with
    | some x => s.put w { x with phase := .dead }
    | none => s
  | .recover now leaseSeconds maxAttempts => s.recover now leaseSeconds maxAttempts

/-- What a step does, where it does anything: a worker that has to wait, or has nothing to do,
rests. -/
inductive Does (env : Env) (s : State) : Action → State → Prop
  | rests {a : Action} : Does env s a s
  | transacts {db : Db} {now : Time} {events : List Event} :
    Does env s (.transact db now events)
      { s with db, events := s.events ++ events.map (enqueue now) }
  | claims {now : Time} {locked : List ℕ} {limit : ℕ} :
    Does env s (.claim now locked limit) (s.claim now locked limit)
  | records {w : ℕ} {x : Session} {c : Claim} {rest : List Claim} {rows : Inserted}
    (hx : s.sessions[w]? = some x) (hrest : x.rest = c :: rest) (hphase : x.phase = .idle)
    (hrows : c.sideEffects env s.db = .ok rows) :
    Does env s (.record w) (s.put w { x with phase := .recorded (s.absent rows) })
  | marks {w : ℕ} {now : Time} {x : Session} {c : Claim} {rest : List Claim} {rows : Inserted}
    {published : Option Time} (hx : s.sessions[w]? = some x) (hrest : x.rest = c :: rest)
    (hphase : x.phase = .recorded rows) (hfree : ¬ s.Locked c.eventId)
    (hfound : published.isSome ↔ s.events[c.eventId]?.map (·.status) = some .processing) :
    Does env s (.mark w now) (s.put w { x with phase := .marked rows published })
  | commits {w : ℕ} {lost : Option String} {x : Session} {c : Claim} {rest : List Claim}
    {rows : Inserted} {published : Option Time} (hx : s.sessions[w]? = some x)
    (hrest : x.rest = c :: rest) (hphase : x.phase = .marked rows published) :
    Does env s (.commit w lost) (s.commit w lost x c rest rows published)
  | fails {w : ℕ} {now : Time} {x : Session} {c : Claim} {rest : List Claim} {error : String}
    {retry : ℤ} {text : Option String} {events : List EventRow} (hx : s.sessions[w]? = some x)
    (hrest : x.rest = c :: rest) (hphase : x.phase = .raised error) (hfree : ¬ s.Locked c.eventId)
    (hevents : markFailed s.events now c.eventId retry text = .ok events) :
    Does env s (.fail w now) ({ s with events }.put w { x with rest, phase := .idle })
  | stops {a : Action} {w : ℕ} {x : Session} {phase : Phase} (hx : s.sessions[w]? = some x)
    (hphase : phase = .dead ∨ x.phase ≠ .dead ∧ ∃ error, phase = .raised error) :
    Does env s a (s.put w { x with phase })
  | recovers {now : Time} {leaseSeconds maxAttempts : ℤ} {n : ℕ} {events : List EventRow}
    (hfree : ∀ e row, s.events[e]? = some row → row.Stale now leaseSeconds → ¬ s.Locked e)
    (hrun : recoverStale s.events now leaseSeconds maxAttempts = .ok (n, events)) :
    Does env s (.recover now leaseSeconds maxAttempts) { s with events }

lemma step_does (env : Env) (s : State) (a : Action) : s.Does env a (s.step env a) := by
  cases a with
  | transact db now events => exact .transacts
  | claim now locked limit => exact .claims
  | record w =>
    simp only [step]
    split
    · rename_i claimed c rest processed hx
      simp only [record]
      split
      · exact .stops hx (.inr ⟨by simp, _, rfl⟩)
      · split_ifs
        · exact .rests
        · exact .records hx rfl rfl ‹_›
    · exact .rests
  | mark w now =>
    simp only [step]
    split
    · rename_i claimed c rest rows processed hx
      simp only [mark]
      split_ifs with hfree hfound
      · exact .rests
      · exact .marks hx rfl rfl hfree (by simpa using hfound)
      · exact .marks hx rfl rfl hfree (by simpa using hfound)
    · exact .rests
  | commit w lost =>
    simp only [step]
    split
    · rename_i hx
      exact .commits hx rfl rfl
    · exact .rests
  | raise w error =>
    simp only [step]
    split
    · exact .rests
    · exact .rests
    · exact .rests
    · exact .rests
    · rename_i x hdead hnone hraised hx
      refine .stops hx (.inr ⟨fun hphase => ?_, _, rfl⟩)
      obtain ⟨claimed, rest, phase, processed⟩ := x
      cases hphase
      exact hdead _ _ _ rfl
  | fail w now =>
    simp only [step]
    split
    · rename_i claimed c rest error processed hx
      simp only [fail]
      split_ifs with hfree
      · exact .rests
      · split
        · exact .stops hx (.inl rfl)
        · exact .fails hx rfl rfl hfree ‹_›
    · exact .rests
  | crash w =>
    simp only [step]
    split
    · rename_i x hx
      exact .stops hx (.inl rfl)
    · exact .rests
  | recover now leaseSeconds maxAttempts =>
    simp only [step, recover]
    split_ifs with hlocked
    · exact .rests
    · split
      · exact .rests
      · rename_i n events hrun
        refine .recovers (fun e row hrow hstale hlock => hlocked ?_) hrun
        exact ⟨e, (List.getElem?_eq_some_iff.mp hrow).1, hlock, row, hrow, hstale⟩

end State

/-! ### What becomes of a row -/

lemma mem_due {events : List EventRow} {now : Time} {locked : List ℕ} {limit e : ℕ}
    (h : e ∈ due events now locked limit) :
    ∃ row, events[e]? = some row ∧ row.status = .pending := by
  obtain ⟨-, hdue⟩ := List.mem_filter.mp (List.mem_of_mem_take h)
  split at hdue
  · cases hdue
  · rename_i row hrow
    simp only [Bool.and_eq_true, decide_eq_true_eq] at hdue
    exact ⟨row, hrow, hdue.1.1⟩

lemma due_nodup (events : List EventRow) (now : Time) (locked : List ℕ) (limit : ℕ) :
    (due events now locked limit).Nodup :=
  (List.nodup_range.filter _).sublist (List.take_sublist _ _)

lemma getElem?_claimBatch (events : List EventRow) (now : Time) (locked : List ℕ) (limit e : ℕ) :
    (claimBatch events now locked limit).2[e]? = events[e]?.map fun row =>
      if e ∈ due events now locked limit then row.claim now else row := by
  simp [claimBatch, List.getElem?_mapIdx]

/-- A claim carries the row as it is after the claim. -/
lemma mem_claimBatch {events : List EventRow} {now : Time} {locked : List ℕ} {limit : ℕ} {c : Claim}
    (h : c ∈ (claimBatch events now locked limit).1) :
    c.eventId ∈ due events now locked limit ∧ ∃ row, events[c.eventId]? = some row ∧
      c.toEvent = row.toEvent ∧ c.attempts = row.attempts + 1 := by
  obtain ⟨e, hdue, hc⟩ := List.mem_filterMap.mp h
  obtain ⟨row, hrow, rfl⟩ := Option.map_eq_some_iff.mp hc
  exact ⟨hdue, row, hrow, rfl, rfl⟩

/-- The claims are of the rows that are due. -/
lemma claimBatch_eventIds (events : List EventRow) (now : Time) (locked : List ℕ) (limit : ℕ) :
    (claimBatch events now locked limit).1.map (·.eventId) = due events now locked limit := by
  have hdue : ∀ e ∈ due events now locked limit, ∃ row, events[e]? = some row :=
    fun e he => (mem_due he).imp fun row hrow => hrow.1
  simp only [claimBatch, List.map_filterMap, Option.map_map]
  generalize due events now locked limit = ids at hdue
  induction ids with
  | nil => rfl
  | cons e ids ih =>
    obtain ⟨row, hrow⟩ := hdue e (by simp)
    simp [hrow, ih fun e' he' => hdue e' (List.mem_cons_of_mem _ he')]

lemma getElem?_markPublished (events : List EventRow) (now : Time) (eventId e : ℕ) :
    (markPublished events now eventId)[e]? = events[e]?.map fun row =>
      if eventId = e ∧ row.status = .processing then
        { row with status := .published, publishedAt := some now, processingAt := none }
      else row := by
  rw [markPublished, List.getElem?_modify]
  by_cases he : eventId = e <;> simp [he]

lemma getElem?_markFailed {events events' : List EventRow} {now : Time} {eventId : ℕ} {retry : ℤ}
    {error : Option String} (h : markFailed events now eventId retry error = .ok events') (e : ℕ) :
    events'[e]? = events[e]?.map fun row =>
      if eventId = e ∧ row.status = .processing then
        { row with
          status := .pending
          availableAt := now + retry.toNat
          lastError := error
          processingAt := none }
      else row := by
  simp only [markFailed] at h
  split_ifs at h
  obtain rfl := Except.ok.inj h
  rw [List.getElem?_modify]
  by_cases he : eventId = e <;> simp [he]

lemma getElem?_recoverStale {events events' : List EventRow} {now : Time}
    {leaseSeconds maxAttempts : ℤ} {n : ℕ}
    (h : recoverStale events now leaseSeconds maxAttempts = .ok (n, events')) (e : ℕ) :
    events'[e]? = events[e]?.map fun row =>
      if row.Stale now leaseSeconds then row.recover now maxAttempts else row := by
  simp only [recoverStale] at h
  split_ifs at h
  obtain ⟨-, rfl⟩ := Prod.mk.inj (Except.ok.inj h)
  exact List.getElem?_map

/-- A row is old, or it is new and has not been claimed. -/
lemma getElem?_append_enqueue {events : List EventRow} {now : Time} {added : List Event} {e : ℕ}
    {row : EventRow} (h : (events ++ added.map (enqueue now))[e]? = some row) :
    events[e]? = some row ∨ events.length ≤ e ∧ row.status = .pending ∧ row.attempts = 0 := by
  rcases lt_or_ge e events.length with hlt | hge
  · rw [List.getElem?_append_left hlt] at h
    exact .inl h
  · rw [List.getElem?_append_right hge, List.getElem?_map] at h
    obtain ⟨event, -, rfl⟩ := Option.map_eq_some_iff.mp h
    exact .inr ⟨hge, rfl, rfl⟩

/-- What becomes of a row: its event stays, its attempts are not forgotten, and the two last
statuses are final. -/
structure EventRow.Evolves (row row' : EventRow) : Prop where
  event : row'.toEvent = row.toEvent
  attempts : row.attempts ≤ row'.attempts
  final : row.status = .published ∨ row.status = .deadLetter → row' = row

lemma EventRow.Evolves.refl (row : EventRow) : row.Evolves row := ⟨rfl, le_rfl, fun _ => rfl⟩

lemma EventRow.Evolves.trans {row row' row'' : EventRow} (h : row.Evolves row')
    (h' : row'.Evolves row'') : row.Evolves row'' where
  event := h'.event.trans h.event
  attempts := h.attempts.trans h'.attempts
  final hfinal := by
    obtain rfl := h.final hfinal
    exact h'.final hfinal

/-- An update of rows that are neither published nor dead. -/
lemma EventRow.Evolves.ite {row row' : EventRow} {p : Prop} [Decidable p]
    (hevent : row'.toEvent = row.toEvent) (hattempts : row.attempts ≤ row'.attempts)
    (hopen : p → row.status ≠ .published ∧ row.status ≠ .deadLetter) :
    row.Evolves (if p then row' else row) := by
  split_ifs with hp
  · refine ⟨hevent, hattempts, fun hfinal => ?_⟩
    exact absurd hfinal (not_or.mpr (hopen hp))
  · exact .refl row

namespace State

/-- The rows of one state are in the other, evolved. -/
def Evolves (s s' : State) : Prop :=
  ∀ (e : ℕ) (row : EventRow), s.events[e]? = some row →
    ∃ row', s'.events[e]? = some row' ∧ row.Evolves row'

lemma Evolves.refl (s : State) : s.Evolves s := fun _ row hrow => ⟨row, hrow, .refl row⟩

lemma Evolves.trans {s s' s'' : State} (h : s.Evolves s') (h' : s'.Evolves s'') :
    s.Evolves s'' := by
  intro e row hrow
  obtain ⟨row', hrow', hevolves⟩ := h e row hrow
  obtain ⟨row'', hrow'', hevolves'⟩ := h' e row' hrow'
  exact ⟨row'', hrow'', hevolves.trans hevolves'⟩

lemma Evolves.of_events {s s' : State} (h : s'.events = s.events) : s.Evolves s' :=
  fun _ row hrow => ⟨row, h ▸ hrow, .refl row⟩

lemma Evolves.of_map {s s' : State} {f : ℕ → EventRow → EventRow}
    (h : ∀ e, s'.events[e]? = s.events[e]?.map (f e))
    (hf : ∀ (e : ℕ) (row : EventRow), s.events[e]? = some row → row.Evolves (f e row)) :
    s.Evolves s' := by
  intro e row hrow
  exact ⟨f e row, by rw [h, hrow]; rfl, hf e row hrow⟩

/-- No step removes a row, and none touches a published one. -/
lemma step_evolves (env : Env) (s : State) (a : Action) : s.Evolves (s.step env a) := by
  have hdoes := step_does env s a
  generalize s.step env a = s' at hdoes
  cases hdoes with
  | rests => exact .refl s
  | transacts =>
    intro e row hrow
    exact ⟨row, List.getElem?_append_left (List.getElem?_eq_some_iff.mp hrow).1 ▸ hrow, .refl row⟩
  | claims =>
    refine .of_map (getElem?_claimBatch _ _ _ _) fun e row hrow => ?_
    refine .ite rfl (by simp [EventRow.claim]) fun hdue => ?_
    obtain ⟨row', hrow', hpending⟩ := mem_due hdue
    cases hrow.symm.trans hrow'
    simp [hpending]
  | records | marks | stops => exact .of_events rfl
  | @commits w lost x c rest rows published =>
    cases published with
    | none => exact .of_events rfl
    | some now =>
      exact .of_map (getElem?_markPublished _ _ _) fun e row _ =>
        .ite rfl le_rfl fun h => by simp [h.2]
  | fails _ _ _ _ hevents =>
    exact .of_map (getElem?_markFailed hevents) fun e row _ =>
      .ite rfl le_rfl fun h => by simp [h.2]
  | recovers _ hrun =>
    exact .of_map (getElem?_recoverStale hrun) fun e row _ =>
      .ite rfl le_rfl fun h => by simp [h.1]

/-- No run does. -/
lemma run_evolves (env : Env) (s : State) (as : List Action) :
    s.Evolves (Machine.run (State.step env) s as) :=
  Machine.run_relates (I := fun _ => True) Evolves.refl (fun _ _ _ => .trans)
    (fun _ _ _ => trivial) (fun s a _ => step_evolves env s a) trivial as

end State

/-- A payment's event. -/
def Event.sample : Event where
  eventType := "PaymentSucceeded"
  aggregateType := "payment"
  aggregateId := 0
  payload := []
  correlationId := none

def Env.sample : Env := ⟨fun _ => "digest", fun _ => "document"⟩

end AgentPay.Outbox
