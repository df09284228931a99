import AgentPay.LifecycleIsolation
import AgentPay.Runs

/-!
# The agent's requests

The endpoints that an agent calls: `create_payment`, the lifecycle operations and `get_payment`. In
a run of the requests of one account, nothing that another account has is written. What they are
answered depends on what the other accounts have in one way: `get_payment`, which authenticates
nobody, shows any payment, and an operation tells whether one is there.
-/

namespace AgentPay

open Support

/-! ### Endpoints -/

/-- `_authenticate_payment` -/
def authenticatePayment (env : Env) (db : Db) (paymentId : PaymentId)
    (authorization : Option String) : Except Error Unit :=
  match bearerToken authorization with
  | none => .error (.http 401 "Bearer authentication is required")
  | some token => do
    let principal ← onPermissionError 401 (env.resolveBearer token)
    let row := do
      let payment ← db.payments.get? paymentId
      db.paymentRequests.get? payment.paymentRequestId
    match row with
    | none => throw (.http 404 "payment not found")
    | some request =>
      onPermissionError 403 (requireAgent principal request.agentId request.accountId)

/-- What `get_payment` returns. -/
structure PaymentBody where
  paymentId : PaymentId
  paymentRequestId : RequestId
  amount : String
  currency : String
  status : PaymentStatus
  providerReference : Option String
  deriving DecidableEq, Repr

/-- `get_payment` -/
def getPayment (db : Db) (paymentId : PaymentId) : Except Error PaymentBody :=
  match db.payments.get? paymentId with
  | none => .error (.http 404 "payment not found")
  | some payment =>
    .ok { paymentId, paymentRequestId := payment.paymentRequestId,
          amount := payment.amount.toDecimal.text, currency := strip payment.currency,
          status := payment.status, providerReference := payment.providerReference }

/-- A request of an agent. -/
inductive AgentRequest where
  | create (call : CreateCall)
  | operate (operation : LifecycleOperation) (paymentId : PaymentId) (amount : LifecycleAmount)
      (authorization : Option String)
  | get (paymentId : PaymentId)

/-- A request with the time it is served at and the answer of the provider, should it be asked. -/
structure AgentTurn where
  request : AgentRequest
  now : Time
  outcome : ProviderOutcome

/-- What an agent is answered. -/
inductive AgentResponse where
  | created (outcome : CreateOutcome)
  | operated (paymentId : PaymentId) (operation : LifecycleOperation) (status : PaymentStatus)
  | found (payment : PaymentBody)
  | raised (e : Error)
  deriving DecidableEq, Repr

/-- `_run` -/
def runLifecycle (env : Env) (db : Db) (operation : LifecycleOperation) (paymentId : PaymentId)
    (amount : LifecycleAmount) (authorization : Option String) (outcome : ProviderOutcome) :
    Except Error (PaymentStatus × Db) := do
  authenticatePayment env db paymentId authorization
  let progress ← lifecycleRun db paymentId amount operation
  conflictOnValueError (progress.answer outcome)

/-- One request: an exception rolls its transaction back. -/
def serveAgent (env : Env) (db : Db) (turn : AgentTurn) : AgentResponse × Db :=
  match turn.request with
  | .create call =>
    match createPayment env turn.now db call with
    | .error e => (.raised e, db)
    | .ok (outcome, db) => (.created outcome, db)
  | .operate operation paymentId amount authorization =>
    match runLifecycle env db operation paymentId amount authorization turn.outcome with
    | .error e => (.raised e, db)
    | .ok (status, db) => (.operated paymentId operation status, db)
  | .get paymentId =>
    match getPayment db paymentId with
    | .error e => (.raised e, db)
    | .ok payment => (.found payment, db)

/-- The requests of a run, one after the other. -/
def serveAgents (env : Env) (db : Db) : List AgentTurn → List AgentResponse × Db
  | [] => ([], db)
  | turn :: turns =>
    let (response, db) := serveAgent env db turn
    let (responses, db) := serveAgents env db turns
    (response :: responses, db)

/-- The request is authorised for the account, if for any. -/
def AgentRequest.ActsFor (env : Env) (account : String) : AgentRequest → Prop
  | create call                     => AgentPay.ActsFor env account call.authorization
  | operate _ _ _ authorization     => AgentPay.ActsFor env account authorization
  | get _                           => True

/-- There is no bearer token, or it is nobody's. -/
def Refused (env : Env) (authorization : Option String) : Prop :=
  ∀ token ∈ bearerToken authorization, ∀ principal, env.resolveBearer token ≠ .ok principal

/-! ### Renaming -/

def AgentRequest.rename (σ : Renaming) : AgentRequest → AgentRequest
  | create call => create call
  | operate operation paymentId amount authorization =>
    operate operation (σ .payments paymentId) amount authorization
  | get paymentId => get (σ .payments paymentId)

def AgentTurn.rename (σ : Renaming) (turn : AgentTurn) : AgentTurn :=
  { turn with request := turn.request.rename σ }

def PaymentBody.rename (σ : Renaming) (b : PaymentBody) : PaymentBody :=
  { b with
    paymentId := σ .payments b.paymentId
    paymentRequestId := σ .requests b.paymentRequestId }

def AgentResponse.rename (σ : Renaming) : AgentResponse → AgentResponse
  | created outcome => created (outcome.rename σ)
  | operated paymentId operation status => operated (σ .payments paymentId) operation status
  | found payment => found (payment.rename σ)
  | raised e => raised e

variable {A : String} {σ : Renaming} {s s' t t' : Db}

/-! ### One request -/

/-- The payment does not belong to another account: it is the account's, or not there. -/
def Db.Own (db : Db) (account : String) (p : PaymentId) : Prop :=
  p < db.payments.nextId → db.accountOf (.payment p) = some account

/-- The payment belongs to another account. -/
def Db.Foreign (db : Db) (account : String) (p : PaymentId) : Prop :=
  ∃ other, other ≠ account ∧ db.accountOf (.payment p) = some other

/-- The payment in the path is none of another account's. An operation may also name one that is
another's in both databases, or that its bearer token does not get to. -/
def AgentRequest.Apart (env : Env) (account : String) (σ : Renaming) (s s' : Db) :
    AgentRequest → Prop
  | create _                      => True
  | operate _ p _ authorization   =>
    s.Own account p ∨ Refused env authorization ∨
      s.Foreign account p ∧ s'.Foreign account (σ .payments p)
  | get p                         => s.Own account p

lemma AgentRequest.ActsFor.rename {env : Env} {request : AgentRequest}
    (h : request.ActsFor env A) : (request.rename σ).ActsFor env A := by
  cases request <;> exact h

lemma Db.Foreign.confined {p : PaymentId} (hp : s.Foreign A p) (hs : s.Refs)
    (h : s.Confined A t) : t.Foreign A p := by
  obtain ⟨B, hBA, hB⟩ := hp
  exact ⟨B, hBA, h.accountOf hs hB⟩

/-- A bearer token that is nobody's gets to no payment. -/
lemma authenticatePayment_refused {env : Env} {authorization : Option String}
    (h : Refused env authorization) :
    ∃ e, ∀ s p, authenticatePayment env s p authorization = .error e := by
  cases htoken : bearerToken authorization with
  | none =>
    refine ⟨.http 401 "Bearer authentication is required", fun s p => ?_⟩
    simp only [authenticatePayment, htoken]
  | some token =>
    cases hresolve : env.resolveBearer token with
    | ok principal => exact absurd hresolve (h token htoken principal)
    | error e =>
      cases e <;> exact ⟨_, fun s p => by
        simp only [authenticatePayment, htoken, hresolve, onPermissionError]
        rfl⟩

/-- The payments of other accounts are refused with one answer. -/
lemma authenticatePayment_foreign {env : Env} {authorization : Option String}
    (hacts : ActsFor env A authorization) :
    ∃ e, ∀ s p, s.Foreign A p → authenticatePayment env s p authorization = .error e := by
  by_cases hrefused : Refused env authorization
  · obtain ⟨e, he⟩ := authenticatePayment_refused hrefused
    exact ⟨e, fun s p _ => he s p⟩
  simp only [Refused, not_forall, not_not] at hrefused
  obtain ⟨token, htoken, principal, hresolve⟩ := hrefused
  have hprincipal := hacts token htoken principal hresolve
  refine ⟨.http 403 "authenticated principal does not match payment actor", fun s p hp => ?_⟩
  obtain ⟨B, hBA, hB⟩ := hp
  obtain ⟨payment, hpayment, hB⟩ := Option.bind_eq_some_iff.mp hB
  obtain ⟨request, hrequest, rfl⟩ := Option.map_eq_some_iff.mp hB
  have htoken : bearerToken authorization = some token := htoken
  have hagent : requireAgent principal request.agentId request.accountId =
      .error (.permissionError "authenticated principal does not match payment actor") := by
    simp [requireAgent, require, hprincipal, hBA.symm, bind, Except.bind]
  simp only [authenticatePayment, htoken, hresolve, hpayment, bind, Option.bind_some, hrequest,
    onPermissionError, Except.bind, hagent]

/-- Authentication lets an account through to its own payments. -/
lemma authenticatePayment_ok {env : Env} {p : PaymentId} {authorization : Option String}
    (hacts : ActsFor env A authorization)
    (h : authenticatePayment env s p authorization = .ok ()) :
    s.accountOf (.payment p) = some A := by
  simp only [authenticatePayment] at h
  split at h
  · cases h
  rename_i token htoken
  obtain ⟨principal, hresolve, h⟩ := Except.bind_eq_ok.mp h
  have hprincipal : principal.accountId = A := by
    refine hacts token htoken principal ?_
    cases hbearer : env.resolveBearer token with
    | ok found =>
      rw [hbearer] at hresolve
      exact hresolve
    | error e =>
      rw [hbearer] at hresolve
      cases e <;> cases hresolve
  split at h
  · cases h
  rename_i request hrow
  obtain ⟨payment, hpayment, hrequest⟩ := Option.bind_eq_some_iff.mp hrow
  have hagent : requireAgent principal request.agentId request.accountId = .ok () := by
    cases hagent : requireAgent principal request.agentId request.accountId with
    | ok u => rfl
    | error e =>
      rw [hagent] at h
      cases e <;> cases h
  refine Option.bind_eq_some_iff.mpr ⟨payment, hpayment, Option.map_eq_some_iff.mpr ⟨request,
    hrequest, ?_⟩⟩
  rw [← requireAgent_ok hagent, hprincipal]

namespace Alike

/-- A database is alike to itself. -/
lemma refl (A : String) (h : s.Refs) : Alike A (fun _ i => i) s s := by
  refine ⟨h, h, rfl, rfl, fun t _ => ?_, fun t _ x _ y _ hxy => hxy, fun t _ k => rfl,
    fun t _ i => rfl⟩
  conv_lhs => rw [← List.map_id (s.part A t)]
  apply List.map_congr_left
  rintro ⟨r, i⟩ _
  rw [TableName.renameEntry, TableName.rename_eq_self]
  · rfl
  · cases t with
    | journals => exact ⟨by cases r.reference <;> rfl, rfl⟩
    | _ => simp [TableName.Ids]

/-- A payment that is not there. -/
lemma get?_payment_none (h : Alike A σ s s') {p : PaymentId} (hp : ¬ p < s.payments.nextId) :
    s.payments.get? p = none ∧ s'.payments.get? (σ .payments p) = none := by
  have hnext := h.next .payments rfl (p - s.payments.nextId)
  have hlength : (s.rows .payments).length = s.payments.nextId := rfl
  have hlength' : (s'.rows .payments).length = s'.payments.nextId := rfl
  rw [hlength, hlength', Nat.add_sub_cancel' (not_lt.mp hp)] at hnext
  refine ⟨List.getElem?_eq_none (not_lt.mp hp), List.getElem?_eq_none ?_⟩
  rw [hnext]
  exact Nat.le_add_right _ _

lemma getPayment (h : Alike A σ s s') {p : PaymentId} (hp : s.Own A p) :
    AgentPay.getPayment s' (σ .payments p) =
      (AgentPay.getPayment s p).map (PaymentBody.rename σ) := by
  by_cases hlt : p < s.payments.nextId
  · obtain ⟨payment, hpayment, -, hpayment'⟩ := h.get?_payment (hp hlt)
    simp only [AgentPay.getPayment, hpayment, hpayment']
    rfl
  · obtain ⟨hnone, hnone'⟩ := h.get?_payment_none hlt
    simp only [AgentPay.getPayment, hnone, hnone']
    rfl

lemma authenticatePayment (h : Alike A σ s s') {p : PaymentId} (hp : s.Own A p) (env : Env)
    (authorization : Option String) :
    AgentPay.authenticatePayment env s' (σ .payments p) authorization =
      AgentPay.authenticatePayment env s p authorization := by
  by_cases hlt : p < s.payments.nextId
  · obtain ⟨payment, hpayment, hreq, hpayment'⟩ := h.get?_payment (hp hlt)
    obtain ⟨request, hrequest, -, hrequest'⟩ := h.get?_request hreq
    have hreq' : (TableName.rename σ .payments payment).paymentRequestId =
      σ .requests payment.paymentRequestId := rfl
    simp only [AgentPay.authenticatePayment, hpayment, hpayment', hrequest, hreq', hrequest', bind,
      Option.bind_some]
    rfl
  · obtain ⟨hnone, hnone'⟩ := h.get?_payment_none hlt
    simp only [AgentPay.authenticatePayment, hnone, hnone']
    rfl

lemma runLifecycle (h : Alike A σ s s') {p : PaymentId} (hp : s.Own A p) (env : Env)
    (operation : LifecycleOperation) (amount : LifecycleAmount) {authorization : Option String}
    (hacts : ActsFor env A authorization) (outcome : ProviderOutcome) :
    Twin A σ s s' (fun a a' _ => a' = a)
      (AgentPay.runLifecycle env s operation p amount authorization outcome)
      (AgentPay.runLifecycle env s' operation (σ .payments p) amount authorization outcome) := by
  simp only [AgentPay.runLifecycle, h.authenticatePayment hp]
  cases hauth : AgentPay.authenticatePayment env s p authorization with
  | error e => exact .raises e
  | ok _ =>
    exact (h.lifecycleRun (authenticatePayment_ok hacts hauth) amount operation).answer outcome

/-- An operation that is refused in both databases. -/
lemma serveAgent_refused (h : Alike A σ s s') {env : Env} {operation : LifecycleOperation}
    {p : PaymentId} {amount : LifecycleAmount} {authorization : Option String} {now : Time}
    {outcome : ProviderOutcome} {e : Error}
    (he : AgentPay.authenticatePayment env s p authorization = .error e)
    (he' : AgentPay.authenticatePayment env s' (σ .payments p) authorization = .error e) :
    let turn : AgentTurn := ⟨.operate operation p amount authorization, now, outcome⟩
    (AgentPay.serveAgent env s' (turn.rename σ)).1 =
        (AgentPay.serveAgent env s turn).1.rename σ ∧
      After A σ s s' (AgentPay.serveAgent env s turn).2
        (AgentPay.serveAgent env s' (turn.rename σ)).2 := by
  simp only [AgentPay.serveAgent, AgentTurn.rename, AgentRequest.rename, AgentPay.runLifecycle,
    he, he']
  exact ⟨rfl, .refl h⟩

/-- One request of the account. -/
lemma serveAgent (h : Alike A σ s s') {env : Env} {turn : AgentTurn}
    (hacts : turn.request.ActsFor env A) (hapart : turn.request.Apart env A σ s s') :
    (AgentPay.serveAgent env s' (turn.rename σ)).1 =
        (AgentPay.serveAgent env s turn).1.rename σ ∧
      After A σ s s' (AgentPay.serveAgent env s turn).2
        (AgentPay.serveAgent env s' (turn.rename σ)).2 := by
  obtain ⟨request, now, outcome⟩ := turn
  cases request with
  | create call =>
    simp only [AgentPay.serveAgent, AgentTurn.rename, AgentRequest.rename]
    rcases (h.createPayment hacts now).elim with
      ⟨e, he, he'⟩ | ⟨o, _, t, t', ht, ht', hafter, rfl⟩
    · rw [he, he']
      exact ⟨rfl, .refl h⟩
    · rw [ht, ht']
      exact ⟨rfl, hafter⟩
  | operate operation p amount authorization =>
    rcases hapart with hown | hrefused | ⟨hforeign, hforeign'⟩
    rotate_left
    · obtain ⟨e, he⟩ := authenticatePayment_refused hrefused
      exact h.serveAgent_refused (he s p) (he s' _)
    · obtain ⟨e, he⟩ := authenticatePayment_foreign hacts
      exact h.serveAgent_refused (he s p hforeign) (he s' _ hforeign')
    simp only [AgentPay.serveAgent, AgentTurn.rename, AgentRequest.rename]
    rcases (h.runLifecycle hown env operation amount hacts outcome).elim with
      ⟨e, he, he'⟩ | ⟨o, _, t, t', ht, ht', hafter, rfl⟩
    · rw [he, he']
      exact ⟨rfl, .refl h⟩
    · rw [ht, ht']
      exact ⟨rfl, hafter⟩
  | get p =>
    simp only [AgentPay.serveAgent, AgentTurn.rename, AgentRequest.rename,
      h.getPayment (p := p) hapart]
    cases AgentPay.getPayment s p with
    | error e => exact ⟨rfl, .refl h⟩
    | ok payment => exact ⟨rfl, .refl h⟩

end Alike

/-! ### Runs -/

/-- What a request of the account writes. -/
lemma serveAgent_confined (hs : s.Refs) {env : Env} {turn : AgentTurn}
    (hacts : turn.request.ActsFor env A) : s.Confined A (serveAgent env s turn).2 := by
  have halike := Alike.refl A hs
  obtain ⟨request, now, outcome⟩ := turn
  cases request with
  | create call =>
    simp only [serveAgent]
    rcases (halike.createPayment hacts now).elim with
      ⟨e, he, -⟩ | ⟨o, _, t, t', ht, -, hafter, -⟩
    · rw [he]
      exact .refl A hs
    · rw [ht]
      exact hafter.confined
  | operate operation p amount authorization =>
    simp only [serveAgent, runLifecycle]
    cases hauth : authenticatePayment env s p authorization with
    | error e => exact .refl A hs
    | ok _ =>
      have hp := authenticatePayment_ok hacts hauth
      rcases ((halike.lifecycleRun hp amount operation).answer outcome).elim with
        ⟨e, he, -⟩ | ⟨o, _, t, t', ht, -, hafter, -⟩
      · simp only [bind, Except.bind] at he ⊢
        rw [he]
        exact .refl A hs
      · simp only [bind, Except.bind] at ht ⊢
        rw [ht]
        exact hafter.confined
  | get p =>
    simp only [serveAgent]
    cases getPayment s p <;> exact .refl A hs

/-- What a run of the requests of some accounts leaves alone. -/
lemma serveAgents_spares {env : Env} {accounts : Set String} (turns : List AgentTurn) :
    ∀ {s : Db}, s.Refs →
      (∀ turn ∈ turns, ∃ account ∈ accounts, turn.request.ActsFor env account) →
      ∀ other, other ∉ accounts → ∀ t,
        (serveAgents env s turns).2.part other t = s.part other t := by
  induction turns with
  | nil => exact fun _ _ _ _ _ => rfl
  | cons turn turns ih =>
    intro s hs hacts other hother t
    obtain ⟨account, hmem, hturn⟩ := hacts turn List.mem_cons_self
    have hfirst := serveAgent_confined hs hturn
    have hne : other ≠ account := fun h => hother (h ▸ hmem)
    exact (ih hfirst.refs (fun x hx => hacts x (List.mem_cons_of_mem _ hx)) other hother t).trans
      (hfirst.part other hne t)

/-- No run of the requests of some accounts writes a row of any other: neither a policy, a wallet or
a budget, nor evidence, a request, a payment, a reservation, an approval, an operation, a
transaction or a journal. -/
theorem serveAgents_confined {env : Env} {s : Db} (hs : s.Refs) {accounts : Set String}
    {other : String} (hother : other ∉ accounts) {turns : List AgentTurn}
    (hacts : ∀ turn ∈ turns, ∃ account ∈ accounts, turn.request.ActsFor env account)
    (t : TableName) : (serveAgents env s turns).2.part other t = s.part other t :=
  serveAgents_spares turns hs hacts other hother t

/-- A capture of a payment. -/
def AgentTurn.capture (p : PaymentId) : AgentTurn :=
  ⟨.operate .capture p ⟨25, ⟨0, by decide⟩, "USD", rfl⟩ (some "Bearer token"), 0, .succeeded⟩

/-- A look at a payment. -/
def AgentTurn.look (p : PaymentId) : AgentTurn := ⟨.get p, 0, .succeeded⟩

/-- A capture, a creation and a look at the payment it creates. -/
def AgentTurn.samples : List AgentTurn :=
  [.capture 0, ⟨.create (.sample "next" 25), 0, .succeeded⟩, .look 1]

lemma Env.sample_actsFor {authorization : Option String} :
    ActsFor .sample "account" authorization := by
  intro token _ principal hprincipal
  simp only [Env.sample] at hprincipal
  split_ifs at hprincipal
  rw [← Except.ok.inj hprincipal]

lemma AgentTurn.samples_actsFor :
    ∀ turn ∈ samples, turn.request.ActsFor .sample "account" := by
  intro turn hturn
  simp only [samples, List.mem_cons, List.not_mem_nil, or_false] at hturn
  rcases hturn with rfl | rfl | rfl
  · exact Env.sample_actsFor
  · exact Env.sample_actsFor
  · trivial

/-- The database with a payment of another account. -/
def Db.beside (db : Db) : Db :=
  { db with
    paymentRequests := (db.paymentRequests.insert?
      (PaymentRepository.newRequest "other" "agent" .seeded "USD" "key" none none)).getD .empty
    payments := (db.payments.insert? (PaymentRepository.newPayment db.paymentRequests.nextId .seeded
      "USD" .processing)).getD .empty }

lemma Db.seeded_refs : (seeded .authorized (some .reserved)).Refs :=
  (seeded_sound .authorized (some .reserved)).refs (by simp [seeded])

lemma Db.beside_confined :
    Confined "other" (seeded .authorized (some .reserved))
      (seeded .authorized (some .reserved)).beside := by
  have hrequest : Confined "other" (seeded .authorized (some .reserved))
      { seeded .authorized (some .reserved) with
        paymentRequests := (seeded .authorized (some .reserved)).beside.paymentRequests } :=
    .append (t := .requests) (r := PaymentRepository.newRequest "other" "agent" .seeded "USD" "key"
      none none) (writes_requests _ rfl) rfl seeded_refs rfl trivial
  exact hrequest.trans (.append (t := .payments) (r := PaymentRepository.newPayment 1 .seeded "USD"
    .processing) (writes_payments _ rfl) rfl hrequest.refs rfl trivial)

/-- The payment of another account stays as it is. -/
theorem serveAgents_confined_samples :
    (serveAgents .sample (Db.seeded .authorized (some .reserved)).beside
      AgentTurn.samples).2.part "other" .payments =
        (Db.seeded .authorized (some .reserved)).beside.part "other" .payments :=
  serveAgents_confined Db.beside_confined.refs
    (show "other" ∉ ({"account"} : Set String) by decide)
    (fun turn hturn => ⟨"account", rfl, AgentTurn.samples_actsFor turn hturn⟩) .payments

/-! ### Two runs -/

/-- The renaming of the ids from `s` to those from `s'`: rows that are there keep theirs, and the
next rows of the one get the next ids of the other. -/
def Renaming.shift (s s' : Db) : Renaming := fun t i =>
  if t.Grown ∧ (s.rows t).length ≤ i then i - (s.rows t).length + (s'.rows t).length else i

/-- Every id in a row is of a row that is there. -/
def Db.Closed (db : Db) : Prop :=
  ∀ t, ∀ r ∈ db.rows t, t.Ids (fun u i => i < (db.rows u).length) r

/-- The account has the same of both databases. -/
structure Db.SameFor (account : String) (db db' : Db) : Prop where
  part : ∀ t, db'.part account t = db.part account t
  merchants : db'.merchants = db.merchants
  providerAccounts : db'.paymentProviderAccounts = db.paymentProviderAccounts

lemma Db.SameFor.alike (h : s.SameFor A s') (hs : s.Refs) (hs' : s'.Refs) (hclosed : s.Closed) :
    Alike A (.shift s s') s s' := by
  have hold : ∀ t i, i < (s.rows t).length → Renaming.shift s s' t i = i := by
    intro t i hi
    exact if_neg fun hcond => absurd hcond.2 (not_le.mpr hi)
  refine ⟨hs, hs', h.merchants, h.providerAccounts, ?_, ?_, ?_, ?_⟩
  · intro t _
    rw [h.part t]
    conv_lhs => rw [← List.map_id (s.part A t)]
    apply List.map_congr_left
    rintro ⟨r, i⟩ hx
    have hrow := Alike.row hx
    have hids := (hclosed t r (List.mem_of_getElem? hrow)).imp hold
    rw [TableName.renameEntry, TableName.rename_eq_self hids,
      hold t i (List.getElem?_eq_some_iff.mp hrow).1]
    rfl
  · intro t _ x hx y hy hxy
    rwa [hold t x.2 (List.getElem?_eq_some_iff.mp (Alike.row hx)).1,
      hold t y.2 (List.getElem?_eq_some_iff.mp (Alike.row hy)).1] at hxy
  · intro t ht k
    rw [Renaming.shift, if_pos ⟨ht, Nat.le_add_right _ _⟩]
    omega
  · intro t ht i
    exact if_neg fun hcond => by simp [ht] at hcond

/-- A payment that no other account has at the start of a run is never another account's. -/
lemma Db.Own.confined {p : PaymentId} (hp : s.Own A p) (hs : s.Refs) (h : s.Confined A t) :
    t.Own A p := by
  intro hlt
  obtain ⟨B, hB⟩ := h.refs.exists_account hlt
  by_cases hBA : B = A
  · rw [hB, hBA]
  obtain ⟨payment, -, -, hmem⟩ := Alike.mem_payment hB
  rw [h.part B hBA] at hmem
  exact h.accountOf hs (hp (List.getElem?_eq_some_iff.mp (Alike.row hmem)).1)

/-- Requests of the account keep a request apart. -/
lemma AgentRequest.Apart.confined {env : Env} {request : AgentRequest}
    (hrequest : request.Apart env A σ s s') (hs : s.Refs) (hs' : s'.Refs) (h : s.Confined A t)
    (h' : s'.Confined A t') : request.Apart env A σ t t' := by
  cases request with
  | create call => trivial
  | operate operation p amount authorization =>
    rcases hrequest with hown | hrefused | ⟨hforeign, hforeign'⟩
    · exact .inl (hown.confined hs h)
    · exact .inr (.inl hrefused)
    · exact .inr (.inr ⟨hforeign.confined hs h, hforeign'.confined hs' h'⟩)
  | get p => exact Db.Own.confined hrequest hs h

/-- A run of the requests of the account, in two databases that are alike for it. -/
lemma Alike.serveAgents {env : Env} (turns : List AgentTurn) :
    ∀ {s s' : Db}, Alike A σ s s' → (∀ turn ∈ turns, turn.request.ActsFor env A) →
      (∀ turn ∈ turns, turn.request.Apart env A σ s s') →
      (AgentPay.serveAgents env s' (turns.map (·.rename σ))).1 =
          (AgentPay.serveAgents env s turns).1.map (·.rename σ) ∧
        After A σ s s' (AgentPay.serveAgents env s turns).2
          (AgentPay.serveAgents env s' (turns.map (·.rename σ))).2 := by
  induction turns with
  | nil => exact fun h _ _ => ⟨rfl, .refl h⟩
  | cons turn turns ih =>
    intro s s' h hacts hapart
    have hactsTurn := hacts turn List.mem_cons_self
    obtain ⟨hanswer, hafter⟩ := h.serveAgent hactsTurn (hapart turn List.mem_cons_self)
    have hconfined' : s'.Confined A (AgentPay.serveAgent env s' (turn.rename σ)).2 :=
      serveAgent_confined h.refs' hactsTurn.rename
    obtain ⟨hanswers, hrest⟩ := ih hafter.alike
      (fun x hx => hacts x (List.mem_cons_of_mem _ hx))
      fun x hx => (hapart x (List.mem_cons_of_mem _ hx)).confined h.refs h.refs' hafter.confined
        hconfined'
    refine ⟨?_, hafter.trans hrest⟩
    simp only [AgentPay.serveAgents, List.map_cons, hanswer, hanswers]

/-- A request names no payment of another account in its path, or it is an operation that cannot
tell: its bearer token does not get that far, or the payment is there in both databases. -/
def AgentRequest.KeepsTo (env : Env) (account : String) (s s' : Db) : AgentRequest → Prop
  | create _                    => True
  | operate _ p _ authorization =>
    s.Own account p ∨ Refused env authorization ∨ p < s'.payments.nextId
  | get p                       => s.Own account p

lemma AgentRequest.KeepsTo.apart {env : Env} {request : AgentRequest}
    (h : request.KeepsTo env A s s') (hs : s.Refs) (hs' : s'.Refs) (hsame : s.SameFor A s') :
    request.Apart env A (.shift s s') s s' := by
  cases request with
  | create call => trivial
  | get p => exact h
  | operate operation p amount authorization =>
    rcases h with hown | hrefused | hlt'
    · exact .inl hown
    · exact .inr (.inl hrefused)
    by_cases hown : s.Own A p
    · exact .inl hown
    simp only [Db.Own, not_forall] at hown
    obtain ⟨hlt, hother⟩ := hown
    have hlength : p < (s.rows .payments).length := hlt
    have hshift : Renaming.shift s s' .payments p = p :=
      if_neg fun hcond => absurd hcond.2 (not_le.mpr hlength)
    obtain ⟨B, hB⟩ := hs.exists_account hlt
    obtain ⟨B', hB'⟩ := hs'.exists_account hlt'
    refine .inr (.inr ⟨⟨B, fun hBA => hother (hBA ▸ hB), hB⟩, B', fun hBA => ?_, ?_⟩)
    · -- a row of the account's would be the same row of both databases
      subst hBA
      obtain ⟨payment, -, -, hmem⟩ := Alike.mem_payment hB'
      rw [hsame.part .payments] at hmem
      obtain ⟨hrow, hacc⟩ := Db.mem_part.mp hmem
      exact hother (Option.bind_eq_some_iff.mpr ⟨payment, hrow, hacc⟩)
    · rw [hshift]
      exact hB'

end AgentPay
