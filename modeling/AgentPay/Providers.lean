import AgentPay.WorkerRunner
import AgentPay.Support.Memo
import Mathlib.Data.List.AList

/-!
# The providers of the package

`provider.py` and `rails.py`. The four operations of each are one `_run`, which looks at nothing
but the idempotency key: the first call under a key is executed, and every later one, whichever
operation it is and whatever it asks for, is answered the same. The mock that `run_once` makes is
therefore as good as a provider without any state.
-/

namespace AgentPay.Providers

open Support

variable {π κ : Type} [DecidableEq κ]

/-! ### Calls -/

/-- The arguments of an operation, and which of the four it is. -/
structure Call (π κ : Type) where
  operation : OperationType
  paymentId : π
  amountMinor : ℤ
  currency : String
  idempotencyKey : κ
  deriving DecidableEq, Repr

/-- `f"{name}-{sha256(key.encode()).hexdigest()[:16]}"` -/
def reference (hexdigest : κ → String) (name : String) (key : κ) : String :=
  name ++ "-" ++ String.ofList ((hexdigest key).toList.take 16)

/-! ### The mock -/

/-- `MockProvider` -/
structure MockProvider (κ : Type) where
  outcome : ProviderOutcome := .succeeded
  calls : ℕ := 0
  results : AList fun _ : κ => ProviderOutcome := ∅
  references : AList fun _ : κ => String := ∅

namespace MockProvider

variable (hexdigest : κ → String)

/-- `_run` -/
def run (m : MockProvider κ) (key : κ) : ProviderOutcome × MockProvider κ :=
  match m.results.lookup key with
  | some result => (result, m)
  | none =>
    (m.outcome,
      { m with
        calls := m.calls + 1
        results := m.results.insert key m.outcome
        references := m.references.insert key (reference hexdigest "mock" key) })

/-- `reference_for` -/
def referenceFor (m : MockProvider κ) (key : κ) : Option String := m.references.lookup key

/-- `charge`, `capture`, `void` and `refund` -/
def operate (m : MockProvider κ) (call : Call π κ) : ProviderOutcome × MockProvider κ :=
  m.run hexdigest call.idempotencyKey

end MockProvider

/-! ### The sandbox -/

/-- `SandboxProvider` -/
structure SandboxProvider (κ : Type) where
  defaultOutcome : ProviderOutcome := .succeeded
  calls : ℕ := 0
  results : AList fun _ : κ => ProviderOutcome := ∅
  references : AList fun _ : κ => String := ∅
  planned : AList fun _ : κ => ProviderOutcome := ∅

namespace SandboxProvider

variable (hexdigest : κ → String)

/-- `plan` -/
def plan (m : SandboxProvider κ) (key : κ) (outcome : ProviderOutcome) : SandboxProvider κ :=
  { m with planned := m.planned.insert key outcome }

/-- `_run` -/
def run (m : SandboxProvider κ) (key : κ) : ProviderOutcome × SandboxProvider κ :=
  match m.results.lookup key with
  | some result => (result, m)
  | none =>
    let outcome := (m.planned.lookup key).getD m.defaultOutcome
    (outcome,
      { m with
        calls := m.calls + 1
        results := m.results.insert key outcome
        references := m.references.insert key (reference hexdigest "sandbox" key) })

/-- `reference_for` -/
def referenceFor (m : SandboxProvider κ) (key : κ) : Option String := m.references.lookup key

/-- `charge`, `capture`, `void` and `refund` -/
def operate (m : SandboxProvider κ) (call : Call π κ) : ProviderOutcome × SandboxProvider κ :=
  m.run hexdigest call.idempotencyKey

end SandboxProvider

/-! ### The rails -/

/-- `SimulatedPaymentRail`, which has no `reference_for`. -/
structure SimulatedPaymentRail (κ : Type) where
  name : String
  outcome : ProviderOutcome := .succeeded
  calls : ℕ := 0
  results : AList fun _ : κ => ProviderOutcome := ∅

namespace SimulatedPaymentRail

/-- `_run` -/
def run (m : SimulatedPaymentRail κ) (key : κ) : ProviderOutcome × SimulatedPaymentRail κ :=
  match m.results.lookup key with
  | some result => (result, m)
  | none =>
    (m.outcome,
      { m with
        calls := m.calls + 1
        results := m.results.insert key m.outcome })

/-- `charge`, `capture`, `void` and `refund` -/
def operate (m : SimulatedPaymentRail κ) (call : Call π κ) :
    ProviderOutcome × SimulatedPaymentRail κ :=
  m.run call.idempotencyKey

end SimulatedPaymentRail

/-- `WalletRail` -/
def walletRail (outcome : ProviderOutcome) : SimulatedPaymentRail κ := { name := "wallet", outcome }

/-- `VirtualCardRail` -/
def virtualCardRail (outcome : ProviderOutcome) : SimulatedPaymentRail κ :=
  { name := "virtual_card", outcome }

/-! ### Runs of the sandbox -/

namespace SandboxProvider

/-- What is done with a sandbox. -/
inductive Action (π κ : Type) where
  | plan (key : κ) (outcome : ProviderOutcome)
  | operate (call : Call π κ)
  deriving DecidableEq, Repr

/-- The key of an operation. -/
def Action.key : Action π κ → Option κ
  | .plan _ _    => none
  | .operate call => some call.idempotencyKey

variable (hexdigest : κ → String)

def step (m : SandboxProvider κ) : Action π κ → SandboxProvider κ
  | .plan key outcome => m.plan key outcome
  | .operate call     => (m.operate hexdigest call).2

/-- What a first call under the key of `a` would be answered with. -/
def fresh (m : SandboxProvider κ) : Action π κ → ProviderOutcome
  | .plan _ outcome => outcome
  | .operate call   => (m.planned.lookup call.idempotencyKey).getD m.defaultOutcome

lemma run_eq (m : SandboxProvider κ) (key : κ) :
    (m.run hexdigest key).1 =
      (m.results.lookup key).getD ((m.planned.lookup key).getD m.defaultOutcome) := by
  rw [run]
  cases m.results.lookup key <;> rfl

/-- What a call leaves in the results. -/
lemma lookup_run (m : SandboxProvider κ) (key k : κ) :
    (m.run hexdigest key).2.results.lookup k =
      if key = k then some ((m.results.lookup k).getD ((m.planned.lookup k).getD m.defaultOutcome))
      else m.results.lookup k := by
  rw [run]
  cases hresult : m.results.lookup key with
  | some result =>
    by_cases hk : key = k
    · rw [if_pos hk, ← hk, hresult]
      rfl
    · rw [if_neg hk]
  | none =>
    by_cases hk : key = k
    · subst hk
      rw [if_pos rfl, hresult]
      exact AList.lookup_insert m.results
    · rw [if_neg hk]
      exact AList.lookup_insert_ne (Ne.symm hk)

/-- A sandbox executes a key once. -/
lemma memo : Memo (step hexdigest) (Action.key (π := π)) fresh
    fun (m : SandboxProvider κ) k => m.results.lookup k where
  find_step m a k := by
    cases a with
    | plan key outcome => rfl
    | operate call =>
      refine (lookup_run hexdigest m call.idempotencyKey k).trans ?_
      by_cases hk : call.idempotencyKey = k
      · subst hk
        simp [Action.key, fresh]
      · simp [Action.key, hk]

/-- A sandbox that is new. -/
def start (defaultOutcome : ProviderOutcome) : SandboxProvider κ := { defaultOutcome }

/-- What a step plans for a key. -/
def Action.planFor (key : κ) : Action π κ → Option ProviderOutcome
  | .plan k outcome => if k = key then some outcome else none
  | .operate _      => none

/-- The outcome that is planned for a key last. -/
def lastPlan (key : κ) (as : List (Action π κ)) : Option ProviderOutcome :=
  (as.filterMap (Action.planFor key)).getLast?

lemma lastPlan_concat (key : κ) (as : List (Action π κ)) (a : Action π κ) :
    lastPlan key (as ++ [a]) = (a.planFor key).or (lastPlan key as) := by
  rw [lastPlan, List.filterMap_append, List.getLast?_append]
  cases hplan : a.planFor key <;> simp [hplan, lastPlan]

/-- An operation under a key that is new gets what is planned for it. -/
lemma fresh_eq {m : SandboxProvider κ} {a : Action π κ} {key : κ} (h : a.key = some key) :
    m.fresh a = (m.planned.lookup key).getD m.defaultOutcome := by
  cases a with
  | plan => cases h
  | operate call =>
    obtain rfl := Option.some.inj h
    rfl

/-- The plans of a run; the default stays. -/
lemma planned_run (defaultOutcome : ProviderOutcome) (as : List (Action π κ)) (key : κ) :
    let m := Machine.run (step hexdigest) (start defaultOutcome) as
    m.planned.lookup key = lastPlan key as ∧ m.defaultOutcome = defaultOutcome := by
  induction as using List.reverseRecOn with
  | nil => exact ⟨rfl, rfl⟩
  | append_singleton as a ih =>
    obtain ⟨hplanned, hdefault⟩ := ih
    rw [Machine.run_concat, lastPlan_concat]
    generalize Machine.run (step hexdigest) (start defaultOutcome) as = m at hplanned hdefault
    cases a with
    | plan k outcome =>
      refine ⟨?_, hdefault⟩
      by_cases hk : k = key
      · subst hk
        simp [step, plan, Action.planFor]
      · simpa [step, plan, Action.planFor, hk, AList.lookup_insert_ne (Ne.symm hk)] using hplanned
    | operate call =>
      have hkept : (m.run hexdigest call.idempotencyKey).2.planned = m.planned ∧
          (m.run hexdigest call.idempotencyKey).2.defaultOutcome = m.defaultOutcome := by
        rw [run]
        cases m.results.lookup call.idempotencyKey <;> exact ⟨rfl, rfl⟩
      exact ⟨(congrArg (AList.lookup key) hkept.1).trans hplanned, hkept.2.trans hdefault⟩

/-- The references are those of the keys with a result. -/
lemma referenceFor_run (defaultOutcome : ProviderOutcome) (as : List (Action π κ)) (key : κ) :
    let m := Machine.run (step hexdigest) (start defaultOutcome) as
    m.referenceFor key =
      (m.results.lookup key).map fun _ => reference hexdigest "sandbox" key := by
  refine Machine.run_invariant (I := fun m : SandboxProvider κ => m.referenceFor key =
    (m.results.lookup key).map fun _ => reference hexdigest "sandbox" key) (fun m a hm => ?_) rfl as
  cases a with
  | plan k outcome => exact hm
  | operate call =>
    simp only [step, operate, run, referenceFor] at hm ⊢
    cases hresult : m.results.lookup call.idempotencyKey with
    | some result => exact hm
    | none =>
      by_cases hk : key = call.idempotencyKey
      · subst hk
        simp
      · simpa [AList.lookup_insert_ne hk] using hm

/-- After any plans and operations, a sandbox answers an operation with the outcome that was planned
last for its key before the first operation under that key, or with the default. It has executed one
operation for each key, and has a reference for exactly these. -/
theorem run_answers (hexdigest : κ → String) (defaultOutcome : ProviderOutcome)
    (as : List (Action π κ)) (call : Call π κ) :
    let m := Machine.run (step hexdigest) (start defaultOutcome) as
    (m.operate hexdigest call).1 =
        (lastPlan call.idempotencyKey (Memo.before Action.key call.idempotencyKey as)).getD
          defaultOutcome ∧
      m.calls = (as.filterMap Action.key).toFinset.card ∧
      m.referenceFor call.idempotencyKey =
        if call.idempotencyKey ∈ as.filterMap Action.key then
          some (reference hexdigest "sandbox" call.idempotencyKey)
        else none := by
  intro m
  have hmemo := memo (π := π) hexdigest
  have hnone (k : κ) : (start defaultOutcome).results.lookup k = none := AList.lookup_empty k
  have hplanned := planned_run (π := π) hexdigest defaultOutcome
  have hfirst : (((Memo.first? Action.key call.idempotencyKey as).getD (.operate call)).key) =
      some call.idempotencyKey := by
    cases hfound : Memo.first? Action.key call.idempotencyKey as with
    | none => rfl
    | some a => exact Memo.key_of_first? hfound
  refine ⟨?_, ?_, ?_⟩
  · calc (m.operate hexdigest call).1
        = (m.results.lookup call.idempotencyKey).getD (m.fresh (.operate call)) :=
          run_eq hexdigest m call.idempotencyKey
      _ = _ := hmemo.answer_run (hnone _) as (.operate call)
      _ = _ := fresh_eq hfirst
      _ = _ := by
          have hplan := hplanned (Memo.before Action.key call.idempotencyKey as)
            call.idempotencyKey
          exact congrArg₂ Option.getD hplan.1 hplan.2
  · have hsize := hmemo.size_run (s := start defaultOutcome) calls (fun m a => ?_) hnone as
    · exact hsize.trans (Nat.zero_add _)
    · cases a with
      | plan => rfl
      | operate call =>
        show (m.run hexdigest call.idempotencyKey).2.calls = _
        rw [run]
        cases hresult : m.results.lookup call.idempotencyKey <;> simp [Action.key, hresult]
  · rw [referenceFor_run hexdigest defaultOutcome as call.idempotencyKey,
      hmemo.find_run (hnone _)]
    split_ifs with hcalled
    · have hsome := mt Memo.first?_eq_none.mp (not_not.mpr hcalled)
      obtain ⟨a, ha⟩ := Option.ne_none_iff_exists'.mp hsome
      rw [ha]
      rfl
    · rw [Memo.first?_eq_none.mpr hcalled]
      rfl

end SandboxProvider

/-! ### The worker with its mock -/

section Worker

variable {σ : Type} (charge : σ → ProviderCall → ProviderAnswer × σ)

/-- The answer `process_one` finalizes with, from a provider with a state of its own. -/
def answerWith (m : σ) (db : Db) (claim : Worker.Claim) : ProviderAnswer × σ :=
  match Worker.durable db claim.paymentId with
  | some answer => (answer, m)
  | none        => charge m claim.charge

/-- The body of the loop in `run_once` with what it commits, and what it leaves of the provider. -/
def serveWith (s : Db × σ) (p : PaymentId) : Except Error PaymentStatus × (Db × σ) :=
  match Worker.accountsFor s.1 p with
  | .error e     => (.error e, s)
  | .ok accounts =>
    match Worker.mark s.1 p accounts with
    | .error e           => (.error e, s)
    | .ok (claim, taken) =>
      let (answer, m) := answerWith charge s.2 taken claim
      match Worker.finalize taken claim answer with
      | .error e          => (.error e, (taken, m))
      | .ok (status, db') => (.ok status, (db', m))

/-- A provider that answers as a function of the call does, whatever it has been asked before. -/
structure Answers (I : σ → Prop) (f : ProviderCall → ProviderAnswer) : Prop where
  answer : ∀ m call, I m → (charge m call).1 = f call
  keeps : ∀ m call, I m → I (charge m call).2

variable {charge} {I : σ → Prop} {f : ProviderCall → ProviderAnswer}

lemma Answers.answerWith (h : Answers charge I f) {m : σ} (hm : I m) (db : Db)
    (claim : Worker.Claim) :
    Worker.answerFor (fun call => .ok (f call)) db claim =
        .ok (Providers.answerWith charge m db claim).1 ∧
      I (Providers.answerWith charge m db claim).2 := by
  rw [Worker.answerFor, Providers.answerWith]
  cases Worker.durable db claim.paymentId with
  | some answer => exact ⟨rfl, hm⟩
  | none        => exact ⟨congrArg Except.ok (h.answer m _ hm).symm, h.keeps m _ hm⟩

/-- Serving a payment with the provider writes what serving it with the function does. -/
lemma Answers.serveWith (h : Answers charge I f) (s : Db × σ) (p : PaymentId) (hs : I s.2) :
    Worker.serve (fun call => .ok (f call)) s.1 p =
        ((Providers.serveWith charge s p).1, (Providers.serveWith charge s p).2.1) ∧
      I (Providers.serveWith charge s p).2.2 := by
  obtain ⟨db, m⟩ := s
  rw [Worker.serve, Providers.serveWith]
  cases Worker.accountsFor db p with
  | error e => exact ⟨rfl, hs⟩
  | ok accounts =>
    simp only [Worker.processCommitted]
    cases Worker.mark db p accounts with
    | error e => exact ⟨rfl, hs⟩
    | ok marked =>
      obtain ⟨claim, taken⟩ := marked
      obtain ⟨hanswer, hkeeps⟩ := h.answerWith hs taken claim
      simp only [hanswer]
      cases Worker.finalize taken claim (Providers.answerWith charge m taken claim).1 with
      | error e => exact ⟨rfl, hkeeps⟩
      | ok done => exact ⟨rfl, hkeeps⟩

/-- So does a whole batch. -/
lemma Answers.batch (h : Answers charge I f) (s : Db × σ) (hs : I s.2) (ids : List PaymentId) :
    batch (Worker.serve fun call => .ok (f call)) s.1 ids =
      ((batch (Providers.serveWith charge) s ids).1,
        (batch (Providers.serveWith charge) s ids).2.1) :=
  (batch_refines Prod.fst (I := fun s => I s.2) h.serveWith hs ids).1

end Worker

namespace MockProvider

variable (hexdigest : OperationKey → String)

/-- `charge` and `reference_for` the key, as `process_one` asks for them. -/
def charge (m : MockProvider OperationKey) (call : ProviderCall) :
    ProviderAnswer × MockProvider OperationKey :=
  let (outcome, m) := m.run hexdigest call.idempotencyKey
  (⟨outcome, m.referenceFor call.idempotencyKey⟩, m)

/-- What the mock answers a charge with. -/
def answer (outcome : ProviderOutcome) (call : ProviderCall) : ProviderAnswer :=
  ⟨outcome, some (reference hexdigest "mock" call.idempotencyKey)⟩

/-- A mock that has only been called. -/
structure Plain (o : ProviderOutcome) (m : MockProvider OperationKey) : Prop where
  outcome : m.outcome = o
  results : ∀ key result, m.results.lookup key = some result →
    result = o ∧ m.references.lookup key = some (reference hexdigest "mock" key)

lemma answers (outcome : ProviderOutcome) :
    Answers (charge hexdigest) (Plain hexdigest outcome) (answer hexdigest outcome) where
  answer m call hm := by
    rw [charge, run]
    cases hresult : m.results.lookup call.idempotencyKey with
    | some result =>
      obtain ⟨rfl, hreference⟩ := hm.results _ _ hresult
      exact congrArg (ProviderAnswer.mk result) hreference
    | none =>
      obtain rfl := hm.outcome
      exact congrArg (ProviderAnswer.mk m.outcome) (AList.lookup_insert m.references)
  keeps m call hm := by
    rw [charge, run]
    cases hresult : m.results.lookup call.idempotencyKey with
    | some result => exact hm
    | none =>
      refine ⟨hm.outcome, fun key result hkey => ?_⟩
      by_cases hk : key = call.idempotencyKey
      · subst hk
        refine ⟨?_, AList.lookup_insert m.references⟩
        exact (Option.some.inj ((AList.lookup_insert m.results).symm.trans hkey)).symm.trans
          hm.outcome
      · obtain ⟨houtcome, hreference⟩ :=
          hm.results key result ((AList.lookup_insert_ne hk).symm.trans hkey)
        exact ⟨houtcome, (AList.lookup_insert_ne hk).trans hreference⟩

lemma plain_new (outcome : ProviderOutcome) : Plain hexdigest outcome { outcome } where
  outcome := rfl
  results key _ hkey := by cases (AList.lookup_empty key).symm.trans hkey

/-- `run_once` as it is, with the mock it makes; `outcome` is `AGENT_PAY_MOCK_OUTCOME`. -/
def runOnce (outcome : ProviderOutcome) (locked : List PaymentId) (limit : ℕ) (db : Db) :
    Except Error ℕ × Db :=
  let (served, s) := batch (serveWith (charge hexdigest)) (db, { outcome })
    (Worker.pendingForExecution db locked limit)
  (served, s.1)

/-- The mock that `run_once` makes does in it what a provider without any state would that always
answers `outcome` and names the charge by its key. -/
theorem runOnce_eq (outcome : ProviderOutcome) (locked : List PaymentId) (limit : ℕ) (db : Db) :
    runOnce hexdigest outcome locked limit db =
      AgentPay.runOnce (fun call => .ok (answer hexdigest outcome call)) locked limit db :=
  ((answers hexdigest outcome).batch (db, { outcome }) (plain_new hexdigest outcome)
    (Worker.pendingForExecution db locked limit)).symm

end MockProvider

end AgentPay.Providers
