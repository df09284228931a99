import AgentPay.Endpoints
import AgentPay.Agreement
import AgentPay.Support.Quoted
import AgentPay.Text
import AgentPay.Support.Json
import AgentPay.Support.Memo
import Mathlib.Data.List.AList

/-!
# The provider simulator

`simulator.py`, against which the package is tested end to end: what the caller is told of a charge
and what the provider has made of it are two things. The webhooks and the settlement of a payment
say the same of its first charge, whatever is called in between, and pass the checks of the routes.
-/

namespace AgentPay

open Support

/-! ### Operations -/

structure SimulatedOperation where
  operationId : String
  paymentId : String
  amount : Decimal
  currency : String
  finalOutcome : ProviderOutcome
  callerOutcome : ProviderOutcome
  providerReference : String
  settled : Bool := false
  deriving DecidableEq, Repr

structure ProviderSimulator where
  secret : String := "simulator-secret"
  operations : AList fun _ : String => SimulatedOperation := ∅
  counter : ℕ := 0

/-- What the simulator takes from its libraries: HMAC-SHA256 in hexadecimal, and `str` of a
decimal. -/
structure SimulatorEnv where
  hmac : ByteArray → String → String
  str : Decimal → String

/-- `f"{counter:06d}"` -/
def sixDigits (counter : ℕ) : String :=
  String.ofList (List.replicate (6 - (toString counter).length) '0' ++ (toString counter).toList)

/-- `f"charge:{payment_id}"` -/
def chargeKey (paymentId : String) : String := "charge:" ++ paymentId

/-- What the provider makes of a charge. -/
def ProviderOutcome.final : ProviderOutcome → ProviderOutcome
  | .unknown => .succeeded
  | outcome  => outcome

/-- A charge is decided in the end. -/
lemma ProviderOutcome.final_eq_failed {outcome : ProviderOutcome} :
    outcome.final = .failed ↔ outcome.final ≠ .succeeded := by
  cases outcome <;> decide

/-- What `settlement` returns. -/
structure SimulatedSettlement where
  settlementReference : String
  providerReference : String
  amount : String
  currency : String
  deriving DecidableEq, Repr

namespace ProviderSimulator

/-- The operation that a first charge makes. -/
def operation (counter : ℕ) (paymentId : String) (amount : Decimal) (currency : String)
    (outcome : ProviderOutcome) : SimulatedOperation where
  operationId := chargeKey paymentId
  paymentId := paymentId
  amount := amount
  currency := normCurrency currency
  finalOutcome := outcome.final
  callerOutcome := outcome
  providerReference := "sim_ch_" ++ sixDigits counter

/-- `charge` -/
def charge (s : ProviderSimulator) (paymentId : String) (amount : Decimal) (currency : String)
    (outcome : ProviderOutcome) : ProviderOutcome × ProviderSimulator :=
  match s.operations.lookup (chargeKey paymentId) with
  | some existing => (existing.callerOutcome, s)
  | none =>
    (outcome,
      { s with
        counter := s.counter + 1
        operations := s.operations.insert (chargeKey paymentId)
          (operation (s.counter + 1) paymentId amount currency outcome) })

/-- The `KeyError` of a payment that was not charged. -/
def missing {α : Type} (paymentId : String) : Except Error α :=
  .error (.lookupError ("'" ++ chargeKey paymentId ++ "'"))

def eventType (o : SimulatedOperation) : String :=
  if o.finalOutcome = .succeeded then "payment.succeeded" else "payment.failed"

/-- The payload of a webhook. -/
def payload (env : SimulatorEnv) (paymentId : String) (o : SimulatedOperation) :
    List (String × Value ℤ) :=
  [("event_id", .text ("evt_" ++ o.providerReference)),
    ("event_type", .text (eventType o)),
    ("payment_id", .text paymentId),
    ("provider_reference", .text o.providerReference),
    ("amount", .text (env.str o.amount)),
    ("currency", .text o.currency)]

/-- The body of a webhook. -/
def body (env : SimulatorEnv) (paymentId : String) (o : SimulatedOperation) : ByteArray :=
  ((Value.object (payload env paymentId o)).canonical spellInt).toUTF8

/-- `webhook` -/
def webhook (env : SimulatorEnv) (s : ProviderSimulator) (paymentId : String) :
    Except Error (ByteArray × String) :=
  match s.operations.lookup (chargeKey paymentId) with
  | none   => missing paymentId
  | some o =>
    let body := body env paymentId o
    .ok (body, "sha256=" ++ env.hmac body s.secret)

/-- `settlement` -/
def settlement (env : SimulatorEnv) (s : ProviderSimulator) (paymentId : String) :
    Except Error (SimulatedSettlement × ProviderSimulator) :=
  match s.operations.lookup (chargeKey paymentId) with
  | none   => missing paymentId
  | some o =>
    if o.finalOutcome ≠ .succeeded then
      .error (.valueError "failed provider operation cannot settle")
    else
      .ok (⟨"set_" ++ o.providerReference, o.providerReference, env.str o.amount, o.currency⟩,
        { s with
          operations := s.operations.insert (chargeKey paymentId) { o with settled := true } })

/-! ### Runs -/

/-- What is called on a simulator. A webhook changes nothing of it. -/
inductive Action where
  | charge (paymentId : String) (amount : Decimal) (currency : String) (outcome : ProviderOutcome)
  | settlement (paymentId : String)
  deriving DecidableEq, Repr

def step (env : SimulatorEnv) (s : ProviderSimulator) : Action → ProviderSimulator
  | .charge paymentId amount currency outcome => (s.charge paymentId amount currency outcome).2
  | .settlement paymentId =>
    match s.settlement env paymentId with
    | .error _  => s
    | .ok (_, s) => s

/-- The key of a charge. -/
def Action.key : Action → Option String
  | .charge paymentId _ _ _ => some (chargeKey paymentId)
  | .settlement _           => none

/-- What a charge makes when it is the first. -/
def fresh (s : ProviderSimulator) : Action → SimulatedOperation
  | .charge paymentId amount currency outcome =>
    operation (s.counter + 1) paymentId amount currency outcome
  | .settlement paymentId => operation 0 paymentId ⟨0, 0⟩ "" .unknown

/-- An operation apart from whether it is settled. -/
def recorded (s : ProviderSimulator) (key : String) : Option SimulatedOperation :=
  (s.operations.lookup key).map fun o => { o with settled := false }

/-- A simulator records the first charge of each payment. -/
lemma memo (env : SimulatorEnv) : Memo (step env) Action.key fresh recorded where
  find_step s a k := by
    cases a with
    | charge paymentId amount currency outcome =>
      simp only [step, charge, Action.key, recorded, fresh, Option.some.injEq]
      by_cases hk : chargeKey paymentId = k
      · subst hk
        cases hfound : s.operations.lookup (chargeKey paymentId) with
        | some o => simp [hfound]
        | none => simp [operation]
      · cases hfound : s.operations.lookup (chargeKey paymentId) with
        | some o => simp [hk]
        | none => simp [hk, AList.lookup_insert_ne (Ne.symm hk)]
    | settlement paymentId =>
      simp only [step, settlement, Action.key, recorded, reduceCtorEq, if_false]
      cases hfound : s.operations.lookup (chargeKey paymentId) with
      | none => rfl
      | some o =>
        by_cases hfailed : o.finalOutcome ≠ .succeeded
        · simp [hfailed]
        · simp only [hfailed, if_false]
          by_cases hk : k = chargeKey paymentId
          · subst hk
            simp [hfound]
          · rw [AList.lookup_insert_ne hk]

/-- A simulator that is new. -/
def start (secret : String) : ProviderSimulator := { secret }

/-- The arguments of the first charge of a payment. -/
def firstCharge (paymentId : String) (as : List Action) :
    Option (Decimal × String × ProviderOutcome) :=
  as.findSome? fun
    | .charge p amount currency outcome =>
      if p = paymentId then some (amount, currency, outcome) else none
    | .settlement _ => none

/-- How many payments have been charged up to the first charge of a payment. -/
def number (paymentId : String) (as : List Action) : ℕ :=
  ((Memo.before Action.key (chargeKey paymentId) as).filterMap Action.key).toFinset.card + 1

lemma chargeKey_injective : Function.Injective chargeKey := by
  intro p q h
  have htext := congrArg String.toList h
  rw [chargeKey, chargeKey, String.toList_append, String.toList_append] at htext
  exact String.toList_inj.mp (List.append_cancel_left htext)

/-- The first charge of a payment is the first call under its key. -/
lemma first?_eq (paymentId : String) (as : List Action) :
    Memo.first? Action.key (chargeKey paymentId) as =
      (firstCharge paymentId as).map fun x => .charge paymentId x.1 x.2.1 x.2.2 := by
  induction as with
  | nil => rfl
  | cons a as ih =>
    cases a with
    | charge p amount currency outcome =>
      by_cases hp : p = paymentId
      · subst hp
        simp [Memo.first?, Action.key, firstCharge]
      · have hkey : chargeKey p ≠ chargeKey paymentId := chargeKey_injective.ne hp
        simpa [Memo.first?, Action.key, firstCharge, hp, hkey] using ih
    | settlement p => simpa [Memo.first?, Action.key, firstCharge] using ih

lemma recorded_start (secret key : String) : (start secret).recorded key = none := rfl

lemma counter_run (env : SimulatorEnv) (secret : String) (as : List Action) :
    (Machine.run (step env) (start secret) as).counter =
      (as.filterMap Action.key).toFinset.card := by
  have hsize := (memo env).size_run counter (fun s a => ?_) (recorded_start secret) as
  · exact hsize.trans (Nat.zero_add _)
  cases a with
  | charge paymentId amount currency outcome =>
    simp only [step, charge, Action.key, recorded, Option.isSome_map]
    split <;> rename_i hfound <;> simp [hfound]
  | settlement paymentId =>
    simp only [step, settlement, Action.key]
    split
    · rfl
    · rename_i hok
      split at hok
      · cases hok
      · split_ifs at hok
        obtain ⟨-, rfl⟩ := Prod.mk.inj (Except.ok.inj hok)
        rfl

/-- What is on record of a payment after a run. -/
lemma recorded_run (env : SimulatorEnv) (secret : String) (as : List Action) (paymentId : String) :
    (Machine.run (step env) (start secret) as).recorded (chargeKey paymentId) =
      (firstCharge paymentId as).map fun x =>
        operation (number paymentId as) paymentId x.1 x.2.1 x.2.2 := by
  have hfind := (memo env).find_run (recorded_start secret (chargeKey paymentId)) as
  rw [first?_eq] at hfind
  rw [hfind]
  cases firstCharge paymentId as with
  | none => rfl
  | some x => simp only [Option.map_some, fresh, counter_run, number]

/-! ### Reports -/

lemma sixDigits_injective : Function.Injective sixDigits := by
  have hvalue (n : ℕ) : Nat.ofDigitChars 10 (sixDigits n).toList 0 = n := by
    rw [sixDigits, String.toList_ofList, Nat.ofDigitChars_append,
      Nat.ofDigitChars_replicate_zero, mul_zero, ofDigitChars_toString]
  intro m n h
  rw [← hvalue m, h, hvalue]

/-- The reference of a payment's charge. -/
def reference (paymentId : String) (as : List Action) : String :=
  "sim_ch_" ++ sixDigits (number paymentId as)

lemma mem_key_of_firstCharge {paymentId : String} {as : List Action}
    (h : (firstCharge paymentId as).isSome) : chargeKey paymentId ∈ as.filterMap Action.key := by
  by_contra hnot
  have hnone := (first?_eq paymentId as).symm.trans (Memo.first?_eq_none.mpr hnot)
  rw [Option.map_eq_none_iff] at hnone
  rw [hnone] at h
  cases h

/-- No two payments have one reference. -/
lemma reference_ne {paymentId other : String} {as : List Action} (hne : other ≠ paymentId)
    (h : (firstCharge paymentId as).isSome) : reference other as ≠ reference paymentId as := by
  intro heq
  have htext := congrArg String.toList heq
  rw [reference, reference, String.toList_append, String.toList_append] at htext
  have hnumber := sixDigits_injective (String.toList_inj.mp (List.append_cancel_left htext))
  exact Memo.card_before_ne (chargeKey_injective.ne hne.symm) (mem_key_of_firstCharge h)
    (Nat.succ_injective hnumber).symm

lemma removePrefix_append (start s : String) : removePrefix start (start ++ s) = s := by
  have hprefix : start.toList.isPrefixOf (start ++ s).toList = true := by
    rw [List.isPrefixOf_iff_prefix, String.toList_append]
    exact List.prefix_append _ _
  rw [removePrefix, if_pos hprefix, String.toList_append, ← String.length_toList,
    List.drop_left, String.ofList_toList]

/-- An endpoint that has the simulator's secret for a provider, and reads what is written about an
operation. -/
structure Reads (e : Endpoints) (env : SimulatorEnv) (secret providerName paymentId : String)
    (o : SimulatedOperation) : Prop where
  hmac : e.hmac = env.hmac
  secretFor : e.secretFor providerName = secret
  nonempty : secret ≠ ""
  loads : e.loads (body env paymentId o) =
    .object ⟨some ("evt_" ++ o.providerReference), some (eventType o), some o.providerReference,
      .missing⟩

/-- A webhook is authenticated, and read as the event that it reports; but it has no time. -/
lemma Reads.webhook {e : Endpoints} {env : SimulatorEnv} {secret providerName paymentId : String}
    {o : SimulatedOperation} (h : Reads e env secret providerName paymentId o) (now : ℤ) (db : Db) :
    e.webhook now (body env paymentId o)
        (some ("sha256=" ++ env.hmac (body env paymentId o) secret)) providerName db =
      match e.replayWindow with
      | none => .error (.http 500 "invalid webhook replay-window configuration")
      | some window =>
        if window ≤ 0 then
          applyEvent db providerName ("evt_" ++ o.providerReference) (eventType o)
            (some o.providerReference)
        else .error (.http 400 "provider timestamp is required") := by
  have hheader : "sha256=" ++ env.hmac (body env paymentId o) secret ≠ "" := by
    intro hempty
    simpa using congrArg String.length hempty
  have hsigned : e.authenticates providerName (body env paymentId o)
      (some ("sha256=" ++ env.hmac (body env paymentId o) secret)) = true := by
    simp [Endpoints.authenticates, Endpoints.verifyHmacSignature, orNone, hheader, h.secretFor,
      h.nonempty, h.hmac, removePrefix_append]
  simp only [Endpoints.webhook, providerWebhook, readPayload, hsigned, h.loads]
  cases hwindow : e.replayWindow with
  | none => rfl
  | some window =>
    by_cases hoff : window ≤ 0
    · simp only [enforceReplayWindow, hoff, if_true]
      rfl
    · simp only [enforceReplayWindow, hoff, if_false]
      rfl

lemma eventOutcome_eventType (counter : ℕ) (paymentId : String) (amount : Decimal)
    (currency : String) (outcome : ProviderOutcome) :
    eventOutcome (eventType (operation counter paymentId amount currency outcome)) =
      some outcome.final := by
  cases outcome <;> simp [eventOutcome, eventType, operation, ProviderOutcome.final]

/-- The operation of a payment that is charged, settled or not. -/
lemma lookup_run {paymentId currency : String} {amount : Decimal} {outcome : ProviderOutcome}
    {as : List Action} (hfirst : firstCharge paymentId as = some (amount, currency, outcome))
    (env : SimulatorEnv) (secret : String) :
    ∃ settled, (Machine.run (step env) (start secret) as).operations.lookup (chargeKey paymentId) =
      some { operation (number paymentId as) paymentId amount currency outcome with settled } := by
  have hrecorded := recorded_run env secret as paymentId
  rw [hfirst] at hrecorded
  obtain ⟨o, hlookup, ho⟩ := Option.map_eq_some_iff.mp hrecorded
  refine ⟨o.settled, hlookup.trans (congrArg some ?_)⟩
  exact congrArg (fun x : SimulatedOperation => { x with settled := o.settled }) ho

lemma secret_run (env : SimulatorEnv) (secret : String) (as : List Action) :
    (Machine.run (step env) (start secret) as).secret = secret := by
  refine Machine.run_invariant (I := fun s : ProviderSimulator => s.secret = secret)
    (fun s a hs => ?_) rfl as
  cases a with
  | charge paymentId amount currency outcome =>
    simp only [step, charge]
    split <;> exact hs
  | settlement paymentId =>
    simp only [step, settlement]
    split
    · exact hs
    · rename_i hok
      split at hok
      · cases hok
      · split_ifs at hok
        obtain ⟨-, rfl⟩ := Prod.mk.inj (Except.ok.inj hok)
        exact hs

/-- After any calls, what a simulator tells of a payment is decided by its first charge: what it
answers to further charges, the event that its webhook is to an endpoint, and the settlement report,
under a reference of the payment's own. -/
theorem run_reports {paymentId currency : String} {amount : Decimal} {outcome : ProviderOutcome}
    {as : List Action} (hfirst : firstCharge paymentId as = some (amount, currency, outcome))
    (env : SimulatorEnv) (secret : String) :
    let s := Machine.run (step env) (start secret) as
    let o := operation (number paymentId as) paymentId amount currency outcome
    (∀ amount' currency' outcome', s.charge paymentId amount' currency' outcome' = (outcome, s)) ∧
    eventOutcome (eventType o) = some outcome.final ∧
    (∃ body signature, s.webhook env paymentId = .ok (body, signature) ∧
      ∀ {e : Endpoints} {providerName : String}, Reads e env secret providerName paymentId o →
        ∀ now db, e.webhook now body (some signature) providerName db =
          match e.replayWindow with
          | none => .error (.http 500 "invalid webhook replay-window configuration")
          | some window =>
            if window ≤ 0 then
              applyEvent db providerName ("evt_" ++ o.providerReference) (eventType o)
                (some o.providerReference)
            else .error (.http 400 "provider timestamp is required")) ∧
    (if outcome.final = .failed then
        s.settlement env paymentId = .error (.valueError "failed provider operation cannot settle")
      else
        ∃ s', s.settlement env paymentId = .ok (⟨"set_" ++ o.providerReference,
            o.providerReference, env.str amount, normCurrency currency⟩, s') ∧
          ∀ id operation payment, operation.status = .succeeded →
            (SettlementRepository.reconcile (some (id, operation, payment)) amount
              (normCurrency currency) = (.matched, none) ↔
                normCurrency payment.currency = normCurrency currency ∧
                  payment.amount.toDecimal.units = amount.units)) ∧
    ∀ other, other ≠ paymentId → reference other as ≠ o.providerReference := by
  intro s o
  obtain ⟨settled, hlookup⟩ := lookup_run hfirst env secret
  have hsecret := secret_run env secret as
  refine ⟨fun amount' currency' outcome' => ?_, eventOutcome_eventType .., ?_, ?_, ?_⟩
  · simp only [charge]
    rw [hlookup]
    rfl
  · refine ⟨body env paymentId o, "sha256=" ++ env.hmac (body env paymentId o) secret, ?_,
      fun h => h.webhook⟩
    simp only [webhook]
    rw [hlookup, hsecret]
    rfl
  · split_ifs with hfailed
    · simp only [settlement]
      rw [hlookup]
      exact if_pos (ProviderOutcome.final_eq_failed.mp hfailed)
    · obtain ⟨s', hreport⟩ : ∃ s', s.settlement env paymentId = .ok (⟨"set_" ++ o.providerReference,
          o.providerReference, env.str amount, normCurrency currency⟩, s') := by
        simp only [settlement]
        rw [hlookup]
        exact ⟨_, if_neg (mt ProviderOutcome.final_eq_failed.mpr hfailed)⟩
      refine ⟨s', hreport, fun id operation payment hsucceeded => ?_⟩
      rw [SettlementRepository.reconcile, if_neg (not_not.mpr hsucceeded), compareAmounts_matched,
        normCurrency_normCurrency]
  · intro other hne
    exact reference_ne hne (by rw [hfirst]; rfl)

/-- A charge of which the caller hears nothing, another one, and a retry of the first. -/
def Action.samples : List Action :=
  [.charge "p" ⟨2500, 2⟩ "usd" .unknown, .charge "q" ⟨5, 0⟩ "usd" .failed,
    .charge "p" ⟨2500, 2⟩ "usd" .failed, .settlement "p"]

def sampleEnv : SimulatorEnv where
  hmac := Endpoints.sample.hmac
  str := Decimal.text

/-- The endpoint that the simulator's webhooks go to. -/
def endpoint : Endpoints :=
  { Endpoints.sample with
    getenv := fun _ => some "simulator-secret"
    loads := fun _ =>
      .object ⟨some "evt_sim_ch_000001", some "payment.succeeded", some "sim_ch_000001", .missing⟩ }

lemma endpoint_reads :
    Reads endpoint sampleEnv "simulator-secret" "mock" "p"
      (operation (number "p" Action.samples) "p" ⟨2500, 2⟩ "usd" .unknown) where
  hmac := rfl
  secretFor := by decide +kernel
  nonempty := by decide
  loads := by decide +kernel

/-- The retry is told what the first call was told, the webhook that it succeeded, and the
settlement matches the payment of 25 USD. -/
theorem run_reports_timeout :
    let s := Machine.run (step sampleEnv) (start "simulator-secret") Action.samples
    s.charge "p" ⟨2500, 2⟩ "usd" .failed = (.unknown, s) ∧
    (∃ body signature, s.webhook sampleEnv "p" = .ok (body, signature) ∧
      ∀ now db, endpoint.webhook now body (some signature) "mock" db =
        applyEvent db "mock" "evt_sim_ch_000001" "payment.succeeded" (some "sim_ch_000001")) ∧
    ∃ s', s.settlement sampleEnv "p" =
        .ok (⟨"set_sim_ch_000001", "sim_ch_000001", "25.00", "USD"⟩, s') ∧
      ∀ id operation, operation.status = .succeeded → SettlementRepository.reconcile
        (some (id, operation, PaymentRepository.newPayment 0 .seeded "USD" .succeeded)) ⟨2500, 2⟩
        "USD" = (.matched, none) := by
  obtain ⟨hcharge, -, ⟨body, signature, hwebhook, hdeliver⟩, ⟨s', hsettlement, hmatched⟩, -⟩ :=
    run_reports (show firstCharge "p" Action.samples = some (⟨2500, 2⟩, "usd", .unknown) by decide)
      sampleEnv "simulator-secret"
  have hreference : (operation (number "p" Action.samples) "p" ⟨2500, 2⟩ "usd"
      .unknown).providerReference = "sim_ch_000001" := by decide +kernel
  have hcurrency : normCurrency "usd" = "USD" := by decide +kernel
  rw [hcurrency, hreference] at hsettlement
  refine ⟨hcharge .., ⟨body, signature, hwebhook, fun now db => ?_⟩, s', ?_,
    fun id operation hsucceeded => ?_⟩
  · rw [hdeliver endpoint_reads, hreference]
    rfl
  · exact hsettlement
  · rw [hcurrency] at hmatched
    refine (hmatched id operation _ hsucceeded).mpr ⟨by decide +kernel, ?_⟩
    norm_num [PaymentRepository.newPayment, Amount.seeded, Amount.toDecimal, Decimal.units]

end ProviderSimulator

end AgentPay
