import AgentPay.Ingestion
import AgentPay.Runs

/-!
# The provider endpoints

`_secret_for`, `verify_hmac_signature` and the two routes of `webhooks.py` around
`provider_webhook` and `ingest`. The secret of a request is looked up under a folded form of the
provider name in its path; what the request leaves behind is filed under the name as it is, or
under the stripped name.
-/

namespace AgentPay

open Support

/-! ### Authentication -/

/-- The fields of a settlement report that are read; `none` where the value is not a string.
`datable` says that the columns take `reported_at` and `settled_at`. -/
structure SettlementPayload where
  settlementReference : Option String
  providerReference : Option String
  amount : Option String
  currency : Option String
  datable : Bool := true
  deriving DecidableEq, Repr

/-- What `json.loads` makes of a settlement's body. -/
inductive SettlementBody where
  | invalidJson
  | notAnObject
  | object (payload : SettlementPayload)
  deriving DecidableEq, Repr

/-- What the two routes take from outside: the process environment, `str.upper` and `str.isalnum`
on all of Unicode, HMAC-SHA256 in hexadecimal, and what `json.loads` and `Decimal` make of a
text. -/
structure Endpoints where
  getenv : String → Option String
  upper : String → String
  isalnum : Char → Bool
  hmac : ByteArray → String → String
  loads : ByteArray → WebhookBody
  loadsReport : ByteArray → SettlementBody
  decimal : String → Option Decimal
  replayWindow : Option ℤ

/-- `str.removeprefix` -/
def removePrefix (start s : String) : String :=
  if start.toList.isPrefixOf s.toList then String.ofList (s.toList.drop start.length) else s

namespace Endpoints

variable (e : Endpoints)

/-- The environment variable of a provider's own secret. -/
def secretKey (providerName : String) : String :=
  "AGENT_PAY_PROVIDER_WEBHOOK_SECRET_" ++
    String.ofList ((e.upper providerName).toList.map fun c => if e.isalnum c then c else '_')

/-- `_secret_for` -/
def secretFor (providerName : String) : String :=
  match (e.getenv (e.secretKey providerName)).bind orNone with
  | some secret => secret
  | none => (e.getenv "AGENT_PAY_PROVIDER_WEBHOOK_SECRET").getD ""

/-- `verify_hmac_signature` -/
def verifyHmacSignature (payload : ByteArray) (signature secret : String) : Bool :=
  e.hmac payload secret = removePrefix "sha256=" signature

/-- The check that opens both routes. -/
def authenticates (providerName : String) (body : ByteArray) (signature : Option String) : Bool :=
  let secret := e.secretFor providerName
  match signature.bind orNone with
  | some signature => secret ≠ "" && e.verifyHmacSignature body signature secret
  | none => false

/-! ### The routes -/

/-- `provider_webhook` -/
def webhook (now : ℤ) (body : ByteArray) (signature : Option String) (providerName : String)
    (db : Db) : Except Error (WebhookStatus × Db) :=
  providerWebhook e.replayWindow now db
    { providerName, signed := e.authenticates providerName body signature, body := e.loads body }

/-- The submission that a settlement's payload stands for: the four fields are strings and not
empty. -/
def submission (providerName : String) (payload : SettlementPayload) :
    Except Error Ingestion.Submission :=
  match payload.settlementReference.bind orNone, payload.providerReference.bind orNone,
      payload.amount.bind orNone, payload.currency.bind orNone with
  | some settlementReference, some providerReference, some amount, some currency =>
    .ok ⟨providerName, settlementReference, providerReference, e.decimal amount, currency⟩
  | _, _, _, _ => .error (.http 400
      "settlement_reference, provider_reference, amount and currency are required")

/-- Everything that is checked before the transaction opens, with whether the dates are columns'
values. -/
def readReport (body : ByteArray) (signature : Option String) (providerName : String) :
    Except Error (SettlementReport × Bool) := do
  if e.authenticates providerName body signature = false then
    throw (.http 401 "invalid provider signature")
  else
    match e.loadsReport body with
    | .invalidJson => throw (.http 400 "invalid JSON payload")
    | .notAnObject => throw .attributeError
    | .object payload =>
      let submission ← e.submission providerName payload
      let report ← submission.checked
      return (report, payload.datable)

/-- `provider_settlement` -/
def settlement (body : ByteArray) (signature : Option String) (providerName : String) (db : Db) :
    Except Error (IngestStatus × Db) := do
  let (report, datable) ← e.readReport body signature providerName
  let result ← SettlementRepository.ingest db report
  if datable then return result else throw .dataError

end Endpoints

/-! ### Deliveries under two names -/

/-- A message delivered under `p` and, if that is accepted, under `q`: the first adds what `adds`
says or is a repeat, and the second is a repeat that changes nothing. -/
def CountsOnce {σ : Type} (deliver : String → Db → Except Error (σ × Db)) (duplicate : σ)
    (adds : Db → Db → Prop) (db : Db) (p q : String) : Prop :=
  ∀ answer db', deliver p db = .ok (answer, db') →
    (answer = duplicate ∧ db' = db ∨ adds db db') ∧ deliver q db' = .ok (duplicate, db')

/-- One more provider event. -/
def Db.AddsEvent (db db' : Db) : Prop := db'.providerEvents.nextId = db.providerEvents.nextId + 1

/-- One more settlement and one more reconciliation record. -/
def Db.AddsSettlement (db db' : Db) : Prop :=
  db'.settlements.nextId = db.settlements.nextId + 1 ∧
    db'.reconciliationRecords.length = db.reconciliationRecords.length + 1

/-! ### One event -/

/-- The charge that a SUCCEEDED event settles touches no event. -/
lemma ProviderEventResolver.settleCharge_events {db db' : Db} {p : PaymentId}
    {reservationId : Option ReservationId} {amount : Amount} {currency : String}
    {accounts : LedgerAccounts} {reference : Option String}
    (hrun : settleCharge db p reservationId amount.toDecimal currency accounts reference =
      .ok db') : db'.providerEvents = db.providerEvents := by
  simp only [settleCharge] at hrun
  split at hrun
  · cases hrun
  obtain ⟨db₁, hconsume, hrun⟩ := Except.bind_eq_ok.mp hrun
  obtain ⟨⟨t, db₂⟩, hcreate, hrun⟩ := Except.bind_eq_ok.mp hrun
  obtain ⟨⟨j, db₃⟩, hpost, hrun⟩ := Except.bind_eq_ok.mp hrun
  obtain rfl := Except.ok.inj hrun
  obtain ⟨row, budgets, -, rfl⟩ := BudgetRepository.settle_eq_ok hconsume
  have h₂ : db₂.providerEvents = db.providerEvents := by
    rcases createTransaction_eq_ok hcreate with
      ⟨t, -, -, rfl⟩ | ⟨stored, -, -, -, transactions, -, rfl⟩ <;> rfl
  have h₃ : db₃.providerEvents = db₂.providerEvents := by
    obtain ⟨-, ⟨-, rfl⟩ | ⟨-, -, -, -, stored, journals, -, -, rfl⟩⟩ :=
      postJournal_transfer_eq_ok.mp hpost <;> rfl
  exact h₃.trans h₂

lemma ProviderEventResolver.resolve_keys {db db' : Db} {event : EventId} {id : OperationId}
    {outcome : String} {reference : Option String} {accounts : LedgerAccounts}
    {resolution : Resolution}
    (hrun : resolve db event id outcome reference accounts = .ok (resolution, db')) :
    db'.providerEvents.rows.map ProviderEvent.key =
      db.providerEvents.rows.map ProviderEvent.key := by
  have hmark : ∀ db : Db, (markProcessed db event).providerEvents.rows.map ProviderEvent.key =
      db.providerEvents.rows.map ProviderEvent.key := fun db => by
    rw [markProcessed, Table.map_key_update]
  obtain ⟨row, -, -, ⟨-, -, rfl⟩ | ⟨-, o, payment, request, -, hcase⟩⟩ := resolve_eq_ok hrun
  · rfl
  rcases hcase with ⟨-, -, rfl⟩ | ⟨-, -, db₁, rfl, ⟨-, hdone⟩ | ⟨-, hdone⟩⟩
  · exact hmark db
  · rw [hmark]
    suffices h : db₁.providerEvents = db.providerEvents by rw [h]
    simp only [resolveSucceeded] at hdone
    split_ifs at hdone
    · obtain ⟨db₂, hsettle, hdone⟩ := Except.bind_eq_ok.mp hdone
      obtain rfl := Except.ok.inj hdone
      have hevents := settleCharge_events hsettle
      exact hevents
    · obtain rfl := Except.ok.inj hdone
      rfl
  · rw [hmark]
    suffices h : db₁.providerEvents = db.providerEvents by rw [h]
    simp only [resolveFailed] at hdone
    split at hdone
    · obtain ⟨db₂, hrelease, hdone⟩ := Except.bind_eq_ok.mp hdone
      obtain rfl := Except.ok.inj hdone
      obtain ⟨row, budgets, -, rfl⟩ := BudgetRepository.settle_eq_ok hrelease
      rfl
    · obtain rfl := Except.ok.inj hdone
      rfl

/-- An event about a payment that is decided is marked and ignored. -/
lemma ProviderEventResolver.resolve_decided {db : Db} {event : EventId} {id : OperationId}
    {row : ProviderEvent} (hrow : db.providerEvents.get? event = some row)
    (hsigned : row.signatureValid = true) (hnew : row.processingStatus ≠ .processed)
    {o : ProviderOperation} {payment : Payment} {request : PaymentRequest}
    (hop : operationRow db id = some (o, payment, request)) (hdecided : ¬ payment.status.Resolvable)
    (outcome : String) (reference : Option String) (accounts : LedgerAccounts) :
    resolve db event id outcome reference accounts = .ok (.ignored, markProcessed db event) := by
  simp [resolve, hrow, hsigned, hnew, hop, hdecided]

lemma record_eq_some {db db' : Db} {providerName eventId eventType : String} {valid : Bool}
    {event : EventId}
    (h : ProviderEventRepository.record db providerName eventId eventType valid =
      (some event, db')) :
    db'.providerEvents.rows.map ProviderEvent.key =
      db.providerEvents.rows.map ProviderEvent.key ++ [some (providerName, eventId)] := by
  simp only [ProviderEventRepository.record] at h
  split at h
  · rename_i events hinsert
    obtain ⟨-, rfl⟩ := Prod.mk.inj h
    rw [(Table.insert?_eq_some.mp hinsert).2, List.map_append]
    rfl
  · cases (Prod.mk.inj h).1

lemma record_eq_none {db db' : Db} {providerName eventId eventType : String} {valid : Bool} :
    ProviderEventRepository.record db providerName eventId eventType valid = (none, db') ↔
      some (providerName, eventId) ∈ db.providerEvents.rows.map ProviderEvent.key ∧ db' = db := by
  simp only [ProviderEventRepository.record]
  split
  · rename_i events hinsert
    have hadmits := (Table.insert?_eq_some.mp hinsert).1
    constructor
    · intro h
      cases (Prod.mk.inj h).1
    · rintro ⟨hmem, -⟩
      obtain ⟨row, hrow, hkey⟩ := List.mem_map.mp hmem
      exact absurd hkey (hadmits _ rfl row hrow)
  · rename_i hinsert
    have hmem : some (providerName, eventId) ∈ db.providerEvents.rows.map ProviderEvent.key :=
      List.mem_map.mpr ((Table.insert?_eq_none_iff (t := db.providerEvents)
        (k := (providerName, eventId)) rfl).mp hinsert)
    constructor
    · intro h
      exact ⟨hmem, (Prod.mk.inj h).2.symm⟩
    · rintro ⟨-, rfl⟩
      rfl

/-- An accepted event is a repeat that changes nothing, or one more event under its name. -/
lemma applyEvent_keys {db db' : Db} {providerName eventId eventType : String}
    {providerReference : Option String} {status : WebhookStatus}
    (hrun : applyEvent db providerName eventId eventType providerReference = .ok (status, db')) :
    status = .duplicate ∧ db' = db ∧
        some (providerName, eventId) ∈ db.providerEvents.rows.map ProviderEvent.key ∨
      status ≠ .duplicate ∧ db'.providerEvents.rows.map ProviderEvent.key =
        db.providerEvents.rows.map ProviderEvent.key ++ [some (providerName, eventId)] := by
  simp only [applyEvent] at hrun
  split at hrun
  · rename_i db₁ hrec
    obtain ⟨rfl, rfl⟩ := Prod.mk.inj (Except.ok.inj hrun)
    obtain ⟨hmem, rfl⟩ := record_eq_none.mp hrec
    exact .inl ⟨rfl, rfl, hmem⟩
  rename_i event db₁ hrec
  have hkeys := record_eq_some hrec
  split at hrun
  · obtain ⟨rfl, rfl⟩ := Prod.mk.inj (Except.ok.inj hrun)
    exact .inr ⟨by simp, hkeys⟩
  split at hrun
  · cases hrun
  split at hrun
  · cases hrun
  rename_i operationId operation _
  split at hrun
  · cases hrun
  obtain ⟨⟨resolution, db₂⟩, hresolve, hrun⟩ := Except.bind_eq_ok.mp hrun
  obtain ⟨rfl, rfl⟩ := Prod.mk.inj (Except.ok.inj hrun)
  refine .inr ⟨by simp, (ProviderEventResolver.resolve_keys hresolve).trans ?_⟩
  rw [← hkeys]
  rw [Table.map_key_update]

/-- An event that is on file is a repeat. -/
lemma applyEvent_of_mem {db : Db} {providerName eventId eventType : String}
    (h : some (providerName, eventId) ∈ db.providerEvents.rows.map ProviderEvent.key)
    (providerReference : Option String) :
    applyEvent db providerName eventId eventType providerReference = .ok (.duplicate, db) := by
  have hrec : ProviderEventRepository.record db providerName eventId eventType true = (none, db) :=
    record_eq_none.mpr ⟨h, rfl⟩
  rw [applyEvent, hrec]

/-! ### Webhooks under two names -/

namespace Endpoints

variable (e : Endpoints)

/-- The body can be read at some time. -/
def Readable (body : ByteArray) : Prop :=
  ∃ now read, readPayload e.replayWindow now ⟨"", true, e.loads body⟩ = .ok read

/-- The body can be read, and an event that decides a payment names a reference. -/
def TakesEvent (body : ByteArray) : Prop :=
  ∃ now eventId eventType providerReference,
    readPayload e.replayWindow now ⟨"", true, e.loads body⟩ =
      .ok (eventId, eventType, providerReference) ∧
    (outcomeOf eventType = none ∨ (providerReference.bind orNone).isSome)

/-- A database whose one charge has the reference and a payment that is decided. -/
def decidedUnder (reference : String) : Db :=
  { Db.seeded .succeeded none with
    providerOperations := ⟨[⟨0, .charge, .charge 0, some reference, .succeeded, true⟩], by simp⟩ }

/-- An event that can be applied at all is applied by some database without events. -/
lemma applyEvent_accepted (providerName eventId : String) {eventType : String}
    {providerReference : Option String}
    (h : outcomeOf eventType = none ∨ (providerReference.bind orNone).isSome) :
    ∃ db answer db', db.providerEvents.rows = [] ∧
      applyEvent db providerName eventId eventType providerReference = .ok (answer, db') := by
  obtain ⟨reference, href⟩ : ∃ reference, outcomeOf eventType = none ∨
      providerReference.bind orNone = some reference := by
    rcases h with h | h
    · exact ⟨"", .inl h⟩
    · obtain ⟨reference, href⟩ := Option.isSome_iff_exists.mp h
      exact ⟨reference, .inr href⟩
  set db := decidedUnder reference with hdb
  obtain ⟨events, hinsert, hrows⟩ := Table.insert?_of_idOf?_none (t := db.providerEvents)
    (r := { providerName, providerEventId := eventId, eventType, signatureValid := true,
            processingStatus := .received, providerOperationId := none })
    (k := (providerName, eventId)) rfl rfl
  have hrecord : ProviderEventRepository.record db providerName eventId eventType true =
      (some 0, { db with providerEvents := events }) := by
    rw [ProviderEventRepository.record, hinsert]
    rfl
  refine ⟨db, ?_⟩
  rw [applyEvent, hrecord]
  rcases h with hnone | hsome
  · rw [hnone]
    exact ⟨_, _, rfl, rfl⟩
  cases hout : outcomeOf eventType with
  | none => exact ⟨_, _, rfl, rfl⟩
  | some outcome =>
    have href' : providerReference.bind orNone = some reference := by
      rcases href with hnone | href
      · rw [hout] at hnone
        cases hnone
      · exact href
    have hfind : findOperation { db with providerEvents := events } reference =
        some (0, ⟨0, .charge, .charge 0, some reference, .succeeded, true⟩) := by
      simp [findOperation, hdb, decidedUnder, lastIdx?, Table.get?]
    have haccounts : ∀ events, ledgerAccounts { db with providerEvents := events } 0 =
        some ⟨0, 1⟩ := fun events => rfl
    have hrow : ∀ events, ProviderEventResolver.operationRow
        { db with providerEvents := events } 0 =
          some (⟨0, .charge, .charge 0, some reference, .succeeded, true⟩, _, _) := fun _ => rfl
    have hevent : (events.update 0 (fun e => { e with providerOperationId := some 0 })
        fun _ => rfl).get? 0 =
          some ⟨providerName, eventId, eventType, true, .received, some 0⟩ := by
      rw [Table.get?_update_self, Table.get?, hrows]
      rfl
    have hresolve := ProviderEventResolver.resolve_decided hevent rfl (by simp) (hrow _) (by decide)
      outcome (some reference) ⟨0, 1⟩
    simp only [href', hfind, haccounts]
    exact ⟨_, _, rfl, Except.bind_eq_ok.mpr ⟨_, hresolve, rfl⟩⟩

lemma webhook_eq_ok {now : ℤ} {body : ByteArray} {signature : Option String} {p : String}
    {db db' : Db} {answer : WebhookStatus} (hp : e.authenticates p body signature) :
    e.webhook now body signature p db = .ok (answer, db') ↔
      ∃ eventId eventType providerReference,
        readPayload e.replayWindow now ⟨"", true, e.loads body⟩ =
          .ok (eventId, eventType, providerReference) ∧
        applyEvent db p eventId eventType providerReference = .ok (answer, db') := by
  have hread : readPayload e.replayWindow now ⟨p, true, e.loads body⟩ =
    readPayload e.replayWindow now ⟨"", true, e.loads body⟩ := rfl
  rw [webhook, hp, providerWebhook, hread, Except.bind_eq_ok]
  constructor
  · rintro ⟨⟨eventId, eventType, reference⟩, h, happly⟩
    exact ⟨eventId, eventType, reference, h, happly⟩
  · rintro ⟨eventId, eventType, reference, h, happly⟩
    exact ⟨(eventId, eventType, reference), h, happly⟩

/-- Under one name the second delivery is a repeat. -/
lemma webhook_counts_once {now : ℤ} {body : ByteArray} {signature : Option String} {p : String}
    (hp : e.authenticates p body signature) (db : Db) :
    CountsOnce (e.webhook now body signature) .duplicate Db.AddsEvent db p p := by
  intro answer db' hrun
  obtain ⟨eventId, eventType, reference, hread, happly⟩ := (e.webhook_eq_ok hp).mp hrun
  have hagain : some (p, eventId) ∈ db'.providerEvents.rows.map ProviderEvent.key →
      e.webhook now body signature p db' = .ok (.duplicate, db') := fun hmem =>
    (e.webhook_eq_ok hp).mpr ⟨eventId, eventType, reference, hread, applyEvent_of_mem hmem _⟩
  rcases applyEvent_keys happly with ⟨rfl, rfl, hmem⟩ | ⟨-, hkeys⟩
  · exact ⟨.inl ⟨rfl, rfl⟩, hagain hmem⟩
  · have hmem : some (p, eventId) ∈ db'.providerEvents.rows.map ProviderEvent.key := by
      rw [hkeys]
      exact List.mem_append_right _ (List.mem_singleton_self _)
    refine ⟨.inr ?_, hagain hmem⟩
    have hlength := congrArg List.length hkeys
    simpa [Db.AddsEvent, Table.nextId] using hlength

/-- A repeat under `q` of a message that is on file under `p` alone is no repeat. -/
lemma eq_of_webhook_duplicate {now : ℤ} {body : ByteArray} {signature : Option String} {q : String}
    {db db' : Db} (hq : e.authenticates q body signature)
    {eventId eventType : String} {reference : Option String}
    (hread : readPayload e.replayWindow now ⟨"", true, e.loads body⟩ =
      .ok (eventId, eventType, reference))
    (hrun : e.webhook now body signature q db = .ok (.duplicate, db')) :
    some (q, eventId) ∈ db.providerEvents.rows.map ProviderEvent.key := by
  obtain ⟨eventId', eventType', reference', hread', happly⟩ := (e.webhook_eq_ok hq).mp hrun
  cases hread.symm.trans hread'
  rcases applyEvent_keys happly with ⟨-, -, hmem⟩ | ⟨hnew, -⟩
  · exact hmem
  · exact absurd rfl hnew

/-- Where nothing is on file, a message that is accepted under one name is accepted again under
every other. -/
lemma webhook_counts_twice {body : ByteArray} {signature : Option String} {p q : String}
    (hp : e.authenticates p body signature) (hq : e.authenticates q body signature) (hne : p ≠ q)
    (htakes : e.TakesEvent body) :
    ∃ now db, db.providerEvents.rows = [] ∧
      ¬ CountsOnce (e.webhook now body signature) .duplicate Db.AddsEvent db p q := by
  obtain ⟨now, eventId, eventType, reference, hread, htakes⟩ := htakes
  obtain ⟨db, answer, db', hempty, happly⟩ := applyEvent_accepted p eventId htakes
  refine ⟨now, db, hempty, fun h => ?_⟩
  obtain ⟨-, hsecond⟩ := h answer db'
    ((e.webhook_eq_ok hp).mpr ⟨eventId, eventType, reference, hread, happly⟩)
  have hmem := e.eq_of_webhook_duplicate hq hread hsecond
  rcases applyEvent_keys happly with ⟨-, -, hold⟩ | ⟨-, hkeys⟩
  · simp [hempty] at hold
  · simp [hkeys, hempty, hne.symm] at hmem

/-- Deliveries under two names count once in every state just when the names are equal. -/
lemma webhook_counts_once_iff {body : ByteArray} {signature : Option String} {p q : String}
    (hp : e.authenticates p body signature) (hq : e.authenticates q body signature) :
    (∀ now db, CountsOnce (e.webhook now body signature) .duplicate Db.AddsEvent db p q ∧
      CountsOnce (e.webhook now body signature) .duplicate Db.AddsEvent db q p) ↔
    p = q ∨ ¬ e.Readable body := by
  constructor
  · intro h
    by_contra hboth
    obtain ⟨hne, now, ⟨eventId, eventType, reference⟩, hread⟩ : p ≠ q ∧ e.Readable body := by
      simpa using hboth
    -- the message is on file under `p` alone
    let db := { Db.seeded .succeeded none with
      providerEvents := ⟨[⟨p, eventId, eventType, true, .received, none⟩], by simp⟩ }
    have hfirst : e.webhook now body signature p db = .ok (.duplicate, db) :=
      (e.webhook_eq_ok hp).mpr
        ⟨eventId, eventType, reference, hread, applyEvent_of_mem (by simp [db]) _⟩
    have hmem := e.eq_of_webhook_duplicate hq hread ((h now db).1 _ _ hfirst).2
    simp [db, hne.symm] at hmem
  · rintro (rfl | hnot) now db
    · exact ⟨e.webhook_counts_once hp db, e.webhook_counts_once hp db⟩
    · constructor <;> intro answer db' hrun
      · obtain ⟨eventId, eventType, reference, hread, -⟩ := (e.webhook_eq_ok hp).mp hrun
        exact absurd ⟨now, _, hread⟩ hnot
      · obtain ⟨eventId, eventType, reference, hread, -⟩ := (e.webhook_eq_ok hq).mp hrun
        exact absurd ⟨now, _, hread⟩ hnot

end Endpoints

/-! ### Settlement reports under two names -/

namespace SettlementRepository

lemma validateReport_congr (report : SettlementReport) {name : String}
    (h : strip name = strip report.providerName) :
    validateReport { report with providerName := name } = validateReport report := by
  simp only [validateReport, h]

lemma ingest_ok_store {db db' : Db} {report : SettlementReport} {answer : IngestStatus}
    (h : ingest db report = .ok (answer, db')) :
    validateReport report = .ok () ∧ ∃ amount, storeNumeric report.amount = .ok amount := by
  simp only [ingest] at h
  obtain ⟨_, hvalid, h⟩ := Except.bind_eq_ok.mp h
  obtain ⟨settlements, hinsert, -⟩ := Except.bind_eq_ok.mp h
  obtain ⟨amount, hstore, -⟩ := Except.bind_eq_ok.mp hinsert
  exact ⟨hvalid, amount, hstore⟩

lemma ingest_of_store {report : SettlementReport} (hvalid : validateReport report = .ok ())
    {amount : ℤ} (hstore : storeNumeric report.amount = .ok amount) (db : Db) :
    ∃ answer db', ingest db report = .ok (answer, db') := by
  simp only [ingest, insertReport, hvalid, hstore]
  simp only [bind, Except.bind, pure, Except.pure]
  split <;> exact ⟨_, _, rfl⟩

/-- A report that is on file is a repeat. -/
lemma ingest_of_taken {report : SettlementReport} (hvalid : validateReport report = .ok ())
    {amount : ℤ} (hstore : storeNumeric report.amount = .ok amount) {db : Db} {row : Settlement}
    (hrow : row ∈ db.settlements.rows) (hkey : Settlement.key row = some report.key) :
    ingest db report = .ok (.duplicate, db) := by
  obtain ⟨answer, db', hrun⟩ := ingest_of_store hvalid hstore db
  rcases ingest_cases hrun with ⟨rfl, rfl, -⟩ | hrecords
  · exact hrun
  · exact absurd hkey (hrecords.fresh row hrow)

/-- After a call that returns, the report is on file. -/
lemma ingest_taken {db db' : Db} {report : SettlementReport} {answer : IngestStatus}
    (hrun : ingest db report = .ok (answer, db')) :
    (answer = .duplicate ∧ db' = db ∨ db.AddsSettlement db') ∧
      ∃ row ∈ db'.settlements.rows, Settlement.key row = some report.key := by
  rcases ingest_cases hrun with ⟨rfl, rfl, htaken⟩ | hrecords
  · exact ⟨.inl ⟨rfl, rfl⟩, htaken⟩
  · obtain ⟨row, record, hrows, hrecs, hkey, -⟩ := hrecords.appended
    refine ⟨.inr ⟨Table.nextId_of_rows_append hrows, by simp [hrecs]⟩, row, ?_, hkey⟩
    rw [hrows]
    exact List.mem_append_right _ (List.mem_singleton_self row)

end SettlementRepository

namespace Endpoints

variable (e : Endpoints)

/-- The report can be filed under the name: it can be read, and the columns take its amount and
its dates. -/
def TakesReport (body : ByteArray) (signature : Option String) (providerName : String) : Prop :=
  ∃ report amount, e.readReport body signature providerName = .ok (report, true) ∧
    storeNumeric report.amount = .ok amount

lemma checked_eq_ok {x : Ingestion.Submission} {report : SettlementReport} :
    x.checked = .ok report ↔ ∃ amount, x.amount = some amount ∧
      report = ⟨x.providerName, x.settlementReference, x.providerReference, amount, x.currency⟩ ∧
      SettlementRepository.validateReport report = .ok () := by
  rw [Ingestion.Submission.checked]
  split
  · rename_i hnone
    simp [hnone]
  · rename_i amount hsome
    simp only [hsome, Option.some.injEq, exists_eq_left', Except.bind_eq_ok]
    constructor
    · rintro ⟨_, hvalid, hreport⟩
      obtain rfl := Except.ok.inj hreport
      exact ⟨rfl, hvalid⟩
    · rintro ⟨rfl, hvalid⟩
      exact ⟨(), hvalid, rfl⟩

/-- What is read under one name is read under another that strips to the same. -/
lemma readReport_congr {body : ByteArray} {signature : Option String} {p q : String}
    (hq : e.authenticates q body signature) (hstrip : strip p = strip q)
    {report : SettlementReport} {datable : Bool}
    (h : e.readReport body signature p = .ok (report, datable)) :
    SettlementRepository.validateReport report = .ok () ∧
      SettlementRepository.validateReport { report with providerName := q } = .ok () ∧
      report.providerName = p ∧
      e.readReport body signature q = .ok ({ report with providerName := q }, datable) := by
  simp only [readReport] at h ⊢
  split_ifs at h
  rw [if_neg (by simp [hq])]
  cases hbody : e.loadsReport body with
  | invalidJson => simp only [hbody] at h; cases h
  | notAnObject => simp only [hbody] at h; cases h
  | object payload =>
    simp only [hbody] at h ⊢
    obtain ⟨submission, hsubmission, h⟩ := Except.bind_eq_ok.mp h
    obtain ⟨read, hchecked, h⟩ := Except.bind_eq_ok.mp h
    cases h
    simp only [Endpoints.submission] at hsubmission ⊢
    split at hsubmission
    · rename_i reference providerReference amount currency href hpref hamount hcurrency
      obtain rfl := Except.ok.inj hsubmission
      obtain ⟨value, hvalue, rfl, hvalid⟩ := checked_eq_ok.mp hchecked
      have hvalid' := (SettlementRepository.validateReport_congr
        ⟨p, reference, providerReference, value, currency⟩ hstrip.symm).trans hvalid
      refine ⟨hvalid, hvalid', rfl, ?_⟩
      exact Except.bind_eq_ok.mpr ⟨_, rfl, Except.bind_eq_ok.mpr
        ⟨_, checked_eq_ok.mpr ⟨value, hvalue, rfl, hvalid'⟩, rfl⟩⟩
    · cases hsubmission

lemma settlement_eq_ok {body : ByteArray} {signature : Option String} {p : String} {db db' : Db}
    {answer : IngestStatus} :
    e.settlement body signature p db = .ok (answer, db') ↔
      ∃ report, e.readReport body signature p = .ok (report, true) ∧
        SettlementRepository.ingest db report = .ok (answer, db') := by
  simp only [settlement, Except.bind_eq_ok]
  constructor
  · rintro ⟨⟨report, datable⟩, hread, ⟨answer', db''⟩, hrun, hdates⟩
    cases datable with
    | false => cases hdates
    | true =>
      cases hdates
      exact ⟨report, hread, hrun⟩
  · rintro ⟨report, hread, hrun⟩
    exact ⟨(report, true), hread, (answer, db'), hrun, rfl⟩

/-- Under two names that strip to the same, the second delivery is a repeat. -/
lemma settlement_counts_once {body : ByteArray} {signature : Option String} {p q : String}
    (hq : e.authenticates q body signature) (hstrip : strip p = strip q) (db : Db) :
    CountsOnce (e.settlement body signature) .duplicate Db.AddsSettlement db p q := by
  intro answer db' hrun
  obtain ⟨report, hread, hingest⟩ := e.settlement_eq_ok.mp hrun
  obtain ⟨-, hvalid, rfl, hread'⟩ := e.readReport_congr hq hstrip hread
  obtain ⟨-, amount, hstore⟩ := SettlementRepository.ingest_ok_store hingest
  obtain ⟨hadds, row, hrow, hkey⟩ := SettlementRepository.ingest_taken hingest
  have hkey' : Settlement.key row = some ({ report with providerName := q } :
      SettlementReport).key := by
    rw [hkey, SettlementReport.key, SettlementReport.key, hstrip]
  exact ⟨hadds, e.settlement_eq_ok.mpr
    ⟨_, hread', SettlementRepository.ingest_of_taken hvalid hstore hrow hkey'⟩⟩

/-- Where nothing is on file, a report that is accepted under one name is no repeat under a name
that strips to another. -/
lemma settlement_counts_twice {body : ByteArray} {signature : Option String} {p q : String}
    (hp : e.authenticates p body signature) (hq : e.authenticates q body signature)
    (hne : strip p ≠ strip q)
    (htakes : e.TakesReport body signature p) {db : Db} (hempty : db.settlements.rows = []) :
    ¬ CountsOnce (e.settlement body signature) .duplicate Db.AddsSettlement db p q := by
  intro h
  obtain ⟨report, amount, hread, hstore⟩ := htakes
  obtain ⟨hvalid, -, hname, -⟩ := e.readReport_congr hp rfl hread
  obtain ⟨answer, db', hrun⟩ := SettlementRepository.ingest_of_store hvalid hstore db
  obtain ⟨-, hsecond⟩ := h answer db' (e.settlement_eq_ok.mpr ⟨report, hread, hrun⟩)
  obtain ⟨report', hread', hrun'⟩ := e.settlement_eq_ok.mp hsecond
  obtain ⟨-, -, hname', -⟩ := e.readReport_congr hq rfl hread'
  rcases SettlementRepository.ingest_cases hrun with ⟨-, -, row, hrow, -⟩ | hfirst
  · simp [hempty] at hrow
  obtain ⟨row, record, hrows, -, hkey, -⟩ := hfirst.appended
  rcases SettlementRepository.ingest_cases hrun' with ⟨-, -, row', hrow', hkey'⟩ | hagain
  · rw [hrows, hempty, List.nil_append] at hrow'
    cases List.mem_singleton.mp hrow'
    have hsame := congrArg Prod.fst (Option.some.inj (hkey.symm.trans hkey'))
    rw [SettlementReport.key, SettlementReport.key, hname, hname'] at hsame
    exact hne hsame
  · obtain ⟨row', record', -, -, -, hstatus, -⟩ := hagain.appended
    cases hstatus

/-- Deliveries under two names count once in every state just when the names strip to the same. -/
lemma settlement_counts_once_iff {body : ByteArray} {signature : Option String} {p q : String}
    (hp : e.authenticates p body signature) (hq : e.authenticates q body signature) :
    (∀ db, CountsOnce (e.settlement body signature) .duplicate Db.AddsSettlement db p q ∧
      CountsOnce (e.settlement body signature) .duplicate Db.AddsSettlement db q p) ↔
    strip p = strip q ∨
      ¬ e.TakesReport body signature p ∧ ¬ e.TakesReport body signature q := by
  have hrejects : ∀ {name : String} {db db' : Db} {answer : IngestStatus},
      e.settlement body signature name db = .ok (answer, db') →
      e.TakesReport body signature name := by
    intro name db db' answer hrun
    obtain ⟨report, hread, hingest⟩ := e.settlement_eq_ok.mp hrun
    obtain ⟨-, amount, hstore⟩ := SettlementRepository.ingest_ok_store hingest
    exact ⟨report, amount, hread, hstore⟩
  constructor
  · intro h
    by_contra hnot
    rw [not_or, not_and_or, not_not, not_not] at hnot
    obtain ⟨hne, hp' | hq'⟩ := hnot
    · exact e.settlement_counts_twice hp hq hne hp' rfl (h (.seeded .succeeded none)).1
    · exact e.settlement_counts_twice hq hp (Ne.symm hne) hq' rfl (h (.seeded .succeeded none)).2
  · rintro (hstrip | ⟨hp', hq'⟩) db
    · exact ⟨e.settlement_counts_once hq hstrip db,
        e.settlement_counts_once hp hstrip.symm db⟩
    · exact ⟨fun _ _ hrun => absurd (hrejects hrun) hp',
        fun _ _ hrun => absurd (hrejects hrun) hq'⟩

/-! ### What both routes take for one message -/

/-- A message that two names authenticate counts once under both, in either order and in every
state, just when the webhook names are equal and the settlement names strip to the same, or nothing
can be filed. Names that differ file it twice where nothing is on file yet. -/
theorem counts_once_iff (body : ByteArray) (signature : Option String) (p q : String)
    (hp : e.authenticates p body signature) (hq : e.authenticates q body signature) :
    ((∀ now db, CountsOnce (e.webhook now body signature) .duplicate Db.AddsEvent db p q ∧
        CountsOnce (e.webhook now body signature) .duplicate Db.AddsEvent db q p) ↔
      p = q ∨ ¬ e.Readable body) ∧
    ((∀ db, CountsOnce (e.settlement body signature) .duplicate Db.AddsSettlement db p q ∧
        CountsOnce (e.settlement body signature) .duplicate Db.AddsSettlement db q p) ↔
      strip p = strip q ∨
        ¬ e.TakesReport body signature p ∧ ¬ e.TakesReport body signature q) ∧
    (p ≠ q → e.TakesEvent body → ∃ now db, db.providerEvents.rows = [] ∧
      ¬ CountsOnce (e.webhook now body signature) .duplicate Db.AddsEvent db p q) ∧
    (strip p ≠ strip q → e.TakesReport body signature p →
      ∀ db, db.settlements.rows = [] →
        ¬ CountsOnce (e.settlement body signature) .duplicate Db.AddsSettlement db p q) :=
  ⟨e.webhook_counts_once_iff hp hq, e.settlement_counts_once_iff hp hq,
    fun hne => e.webhook_counts_twice hp hq hne,
    fun hne htakes _ hempty => e.settlement_counts_twice hp hq hne htakes hempty⟩

end Endpoints

/-! ### A message under two spellings of one name -/

/-- An event that decides nothing. -/
def Endpoints.sampleEvent : ByteArray :=
  "\x7b\"event_id\":\"evt_1\",\"event_type\":\"payment.updated\"\x7d".toUTF8

/-- A settlement report. -/
def Endpoints.sampleReport : ByteArray :=
  ("\x7b\"settlement_reference\":\"st_1\",\"provider_reference\":\"ref\"," ++
    "\"amount\":\"60.00\",\"currency\":\"USD\"\x7d").toUTF8

/-- Their signatures under the secret. -/
def Endpoints.sampleSignature (body : ByteArray) : String :=
  if body.size = 51 then "dfe7ab1a6a2b12d25656d88e9e4ef172ff2b2d4bc97871061e300c9610fefb99"
  else "3cd135231c1daa003f0b8399ccc12db5222a1eb37c1e2a52f3b478e0a5f3ff4e"

/-- A process with one provider secret, and what it makes of the two messages. -/
def Endpoints.sample : Endpoints where
  getenv name := if name = "AGENT_PAY_PROVIDER_WEBHOOK_SECRET_MOCK" then some "whsec_mock" else none
  upper := AgentPay.upper
  isalnum := Char.isAlphanum
  hmac body _ := sampleSignature body
  loads _ := .object ⟨some "evt_1", some "payment.updated", none, .missing⟩
  loadsReport _ := .object ⟨some "st_1", some "ref", some "60.00", some "USD", true⟩
  decimal _ := some ⟨6000, 2⟩
  replayWindow := some 0

/-- `/v1/providers/mock` and `/v1/providers/MOCK` share a secret, and what is delivered to both is
filed twice. -/
theorem mock_files_twice :
    let e := Endpoints.sample
    let signature body := some (Endpoints.sampleSignature body)
    let event name := e.webhook 0 Endpoints.sampleEvent (signature Endpoints.sampleEvent) name
    let report name := e.settlement Endpoints.sampleReport (signature Endpoints.sampleReport) name
    let db := Db.seeded .succeeded none
    e.secretFor "mock" = "whsec_mock" ∧ e.secretFor "MOCK" = "whsec_mock" ∧
    (event "mock" db >>= fun x => event "MOCK" x.2).map
      (fun x => (x.1, x.2.providerEvents.nextId)) = .ok (.accepted, 2) ∧
    (report "mock" db >>= fun x => report "MOCK" x.2).map
      (fun x => (x.1, x.2.settlements.nextId, x.2.reconciliationRecords.length)) =
        .ok (.discrepancy, 2, 2) := by
  decide +kernel

/-- The two spellings authenticate the event, and the webhook route counts it twice. -/
theorem counts_once_iff_mock :
    ¬ (∀ now db,
      CountsOnce (Endpoints.sample.webhook now Endpoints.sampleEvent
        (some (Endpoints.sampleSignature Endpoints.sampleEvent))) .duplicate Db.AddsEvent db
        "mock" "MOCK" ∧
      CountsOnce (Endpoints.sample.webhook now Endpoints.sampleEvent
        (some (Endpoints.sampleSignature Endpoints.sampleEvent))) .duplicate Db.AddsEvent db
        "MOCK" "mock") := by
  have h := (Endpoints.sample.counts_once_iff Endpoints.sampleEvent
    (some (Endpoints.sampleSignature Endpoints.sampleEvent)) "mock" "MOCK" (by decide +kernel)
    (by decide +kernel)).1
  rw [h, not_or, not_not]
  exact ⟨by decide, 0, _, rfl⟩

end AgentPay
