import AgentPay.Support.Machine
import AgentPay.Simulation.Creation

/-!
# Settlement reports in flight

Any number of `ingest` calls at once, interleaved with transactions of other code. A call inserts
its settlement row first; until it commits or rolls back, another call with the same provider name
and reference waits at the unique index. The database that the calls share ends with one row and
one record for each report that was accepted.
-/

namespace AgentPay

open Support

/-! ### What one call does -/

/-- The name that a report is filed under. -/
def SettlementReport.key (report : SettlementReport) : String × String :=
  (strip report.providerName, strip report.settlementReference)

/-- What an answer leaves in the settlement row. -/
def IngestStatus.settled? : IngestStatus → Option SettlementStatus
  | .duplicate => none
  | .matched => some .reconciled
  | .discrepancy => some .discrepancy

/-- The settlement and its record say the same. -/
inductive Settlement.ConcludedBy (settlement : Settlement) (record : ReconciliationRecord) : Prop
  | matched (hs : settlement.status = .reconciled) (hr : record.status = .matched)
      (hc : record.discrepancyCode = none)
  | discrepancy (hs : settlement.status = .discrepancy) (hr : record.status = .discrepancy)
      (hc : record.discrepancyCode ≠ none)

/-- The two tables with one more settlement and its record. -/
structure Db.Records (report : SettlementReport) (status : IngestStatus) (db db' : Db) : Prop where
  fresh : ∀ row ∈ db.settlements.rows, Settlement.key row ≠ some report.key
  appended : ∃ row record, db'.settlements.rows = db.settlements.rows ++ [row] ∧
    db'.reconciliationRecords = db.reconciliationRecords ++ [record] ∧
    Settlement.key row = some report.key ∧ status.settled? = some row.status ∧
    record.settlementId = db.settlements.nextId ∧ row.ConcludedBy record

namespace SettlementRepository

lemma compareAmounts_code {expected observed : Decimal} {expectedCurrency observedCurrency : String}
    {status : ReconciliationStatus} {code : Option String}
    (h : compareAmounts expected observed expectedCurrency observedCurrency = (status, code)) :
    status = .matched ∧ code = none ∨ status = .discrepancy ∧ code ≠ none := by
  simp only [compareAmounts] at h
  split_ifs at h <;> obtain ⟨rfl, rfl⟩ := Prod.mk.inj h <;> simp

/-- A conclusion carries a code exactly when it is a discrepancy. -/
lemma reconcile_code {operation : Option (OperationId × ProviderOperation × Payment)}
    {observed : Decimal} {currency : String} {status : ReconciliationStatus} {code : Option String}
    (h : reconcile operation observed currency = (status, code)) :
    status = .matched ∧ code = none ∨ status = .discrepancy ∧ code ≠ none := by
  rcases operation with _ | ⟨id, operation, payment⟩
  · obtain ⟨rfl, rfl⟩ := Prod.mk.inj h
    simp
  · simp only [reconcile] at h
    split_ifs at h
    · obtain ⟨rfl, rfl⟩ := Prod.mk.inj h
      simp
    · exact compareAmounts_code h

lemma insertReport_eq_some {db : Db} {report : SettlementReport}
    {settlements : Table Settlement Settlement.key}
    (h : insertReport db report = .ok (some settlements)) :
    (∀ row ∈ db.settlements.rows, Settlement.key row ≠ some report.key) ∧
      ∃ row, settlements.rows = db.settlements.rows ++ [row] ∧
        Settlement.key row = some report.key := by
  obtain ⟨amount, -, h⟩ := Except.bind_eq_ok.mp h
  obtain ⟨hadmits, hrows⟩ := Table.insert?_eq_some.mp (Except.ok.inj h)
  exact ⟨hadmits _ rfl, _, hrows, rfl⟩

lemma insertReport_eq_none {db : Db} {report : SettlementReport}
    (h : insertReport db report = .ok none) :
    ∃ row ∈ db.settlements.rows, Settlement.key row = some report.key := by
  obtain ⟨amount, -, h⟩ := Except.bind_eq_ok.mp h
  exact (Table.insert?_eq_none_iff (t := db.settlements) (k := report.key) rfl).mp
    (Except.ok.inj h)

/-- What follows the insert appends one row and its record. -/
lemma conclude_records {db : Db} {report : SettlementReport}
    {settlements : Table Settlement Settlement.key}
    (h : insertReport db report = .ok (some settlements)) :
    db.Records report (conclude db report settlements).1 (conclude db report settlements).2 := by
  obtain ⟨hfresh, row, hrows, hkey⟩ := insertReport_eq_some h
  refine ⟨hfresh, ?_⟩
  have hmodify : ∀ f : Settlement → Settlement,
      settlements.rows.modify db.settlements.nextId f = db.settlements.rows ++ [f row] := by
    intro f
    rw [hrows]
    exact modify_length_append _ _ _
  rcases hstatus : reconcile (reportedOperation db (strip report.providerReference)) report.amount
    (normCurrency report.currency) with ⟨status, code⟩
  simp only [conclude, hstatus, Table.rows_update, hmodify]
  rcases reconcile_code hstatus with ⟨rfl, rfl⟩ | ⟨rfl, hcode⟩
  · exact ⟨_, _, rfl, rfl, hkey, rfl, rfl, .matched rfl rfl rfl⟩
  · exact ⟨_, _, rfl, rfl, hkey, rfl, rfl, .discrepancy rfl rfl hcode⟩

/-- A call that returns has found its row in the table, or has appended it. -/
theorem ingest_cases {db db' : Db} {report : SettlementReport} {status : IngestStatus}
    (h : ingest db report = .ok (status, db')) :
    status = .duplicate ∧ db' = db ∧
        (∃ row ∈ db.settlements.rows, Settlement.key row = some report.key) ∨
      db.Records report status db' := by
  simp only [ingest] at h
  obtain ⟨-, -, h⟩ := Except.bind_eq_ok.mp h
  obtain ⟨settlements, hinsert, h⟩ := Except.bind_eq_ok.mp h
  cases settlements with
  | none =>
    obtain ⟨rfl, rfl⟩ := Prod.mk.inj (Except.ok.inj h)
    exact .inl ⟨rfl, rfl, insertReport_eq_none hinsert⟩
  | some settlements =>
    have hrecords := conclude_records hinsert
    rw [Except.ok.inj h] at hrecords
    exact .inr hrecords

end SettlementRepository

/-! ### Calls in flight -/

namespace Ingestion

/-- The arguments of a call. `amount` is `Decimal(str(observed_amount))`, and `none` where that is
no finite number: such a call raises before it commits. -/
structure Submission where
  providerName : String
  settlementReference : String
  providerReference : String
  amount : Option Decimal
  currency : String
  deriving DecidableEq, Repr

/-- What is checked before the transaction opens. -/
def Submission.checked (x : Submission) : Except Error SettlementReport :=
  match x.amount with
  | none => .error .invalidOperation
  | some amount => do
    let report : SettlementReport :=
      ⟨x.providerName, x.settlementReference, x.providerReference, amount, x.currency⟩
    SettlementRepository.validateReport report
    return report

/-- How far a call has come. -/
inductive Call where
  /-- Its transaction is open. -/
  | opened (report : SettlementReport)
  /-- Its settlement row is inserted and not committed: others with the same key wait. -/
  | inserted (report : SettlementReport)
  | finished
  deriving DecidableEq, Repr

/-- Whether a call holds a key that others wait for. -/
def Call.Holds (key : String × String) : Call → Prop
  | .inserted report => report.key = key
  | _ => False

instance (key : String × String) : DecidablePred (Call.Holds key) := fun c => by
  cases c <;> unfold Call.Holds <;> infer_instance

/-- What a call was answered. -/
structure Answer where
  key : String × String
  result : Except Error IngestStatus

/-- The row that the answer stands for. -/
def Answer.settled? (a : Answer) : Option ((String × String) × SettlementStatus) :=
  match a.result with
  | .ok status => status.settled?.map (a.key, ·)
  | .error _ => none

/-- The database with the calls in flight, and what the others were answered. -/
structure State where
  db : Db
  calls : List Call
  answers : List Answer

/-- No report has arrived. -/
def State.start (db : Db) : State :=
  ⟨{ db with settlements := .empty, reconciliationRecords := [] }, [], []⟩

inductive Action where
  | submit (submission : Submission)
  | insert (call : ℕ)
  | conclude (call : ℕ)
  /-- The connection is lost, or the process: the call raises. -/
  | abandon (call : ℕ) (error : Error)
  /-- A transaction of other code, which writes neither of the two tables. -/
  | other (db : Db)

namespace State

/-- A call ends with an answer. -/
def finish (s : State) (call : ℕ) (report : SettlementReport) (result : Except Error IngestStatus) :
    State :=
  { s with
    calls := s.calls.set call .finished
    answers := s.answers ++ [⟨report.key, result⟩] }

/-- The insert: an error and a key that is taken end the call, a key that another call holds makes
it wait. -/
def insert (s : State) (call : ℕ) (report : SettlementReport) : State :=
  match SettlementRepository.insertReport s.db report with
  | .error e => s.finish call report (.error e)
  | .ok none => s.finish call report (.ok .duplicate)
  | .ok (some _) =>
    if s.calls.any fun c => Call.Holds report.key c then s
    else { s with calls := s.calls.set call (.inserted report) }

/-- The rest of the transaction, with what it reads as it is then. -/
def conclude (s : State) (call : ℕ) (report : SettlementReport) : State :=
  match SettlementRepository.ingest s.db report with
  | .error e => s.finish call report (.error e)
  | .ok (status, db) => { s with db }.finish call report (.ok status)

def step (s : State) : Action → State
  | .submit x =>
    match x.checked with
    | .error e =>
      { s with
        answers := s.answers ++ [⟨(strip x.providerName, strip x.settlementReference), .error e⟩] }
    | .ok report => { s with calls := s.calls ++ [.opened report] }
  | .insert c =>
    match s.calls[c]? with
    | some (.opened report) => s.insert c report
    | _ => s
  | .conclude c =>
    match s.calls[c]? with
    | some (.inserted report) => s.conclude c report
    | _ => s
  | .abandon c e =>
    match s.calls[c]? with
    | some (.opened report) | some (.inserted report) => s.finish c report (.error e)
    | _ => s
  | .other db =>
    { s with db := { db with
        settlements := s.db.settlements, reconciliationRecords := s.db.reconciliationRecords } }

end State

/-! ### What one step does -/

/-- Call `c` has inserted its row and not committed. -/
def State.Inserting (s : State) (c : ℕ) (report : SettlementReport) : Prop :=
  s.calls[c]? = some (.inserted report)

/-- No call starts to hold a key. -/
def State.Narrows (s s' : State) : Prop :=
  ∀ c report, s'.Inserting c report → s.Inserting c report

/-- What a step does to the two tables, the calls and the answers. -/
inductive State.Does (s s' : State) : Prop
  /-- Another transaction, a wait, or a call that opens. -/
  | rests (hsettlements : s'.db.settlements = s.db.settlements)
      (hrecords : s'.db.reconciliationRecords = s.db.reconciliationRecords)
      (hcalls : s.Narrows s') (hanswers : s'.answers = s.answers)
  /-- The key is neither in the table nor held. -/
  | inserts (hdb : s'.db = s.db) (c : ℕ) (report : SettlementReport)
      (hfree : ∀ c' report', s.Inserting c' report' → report'.key ≠ report.key)
      (hfresh : ∀ row ∈ s.db.settlements.rows, Settlement.key row ≠ some report.key)
      (hcalls : s'.calls = s.calls.set c (.inserted report)) (hanswers : s'.answers = s.answers)
  | raises (hdb : s'.db = s.db) (hcalls : s.Narrows s') (key : String × String) (e : Error)
      (hanswers : s'.answers = s.answers ++ [⟨key, .error e⟩])
  | repeats (hdb : s'.db = s.db) (hcalls : s.Narrows s') (key : String × String)
      (htaken : ∃ row ∈ s.db.settlements.rows, Settlement.key row = some key)
      (hanswers : s'.answers = s.answers ++ [⟨key, .ok .duplicate⟩])
  | concludes (c : ℕ) (report : SettlementReport) (hc : s.Inserting c report)
      (status : IngestStatus) (hrecords : s.db.Records report status s'.db)
      (hcalls : s'.calls = s.calls.set c .finished)
      (hanswers : s'.answers = s.answers ++ [⟨report.key, .ok status⟩])

lemma State.inserting_set {s s' : State} {c c' : ℕ} {call : Call} {report : SettlementReport}
    (hcalls : s'.calls = s.calls.set c call) (h : s'.Inserting c' report) :
    c' ≠ c ∧ s.Inserting c' report ∨ c' = c ∧ call = .inserted report := by
  unfold State.Inserting at h
  rw [hcalls, List.getElem?_set] at h
  by_cases hc : c = c'
  · subst hc
    rw [if_pos rfl] at h
    split_ifs at h
    exact .inr ⟨rfl, Option.some.inj h⟩
  · rw [if_neg hc] at h
    exact .inl ⟨Ne.symm hc, h⟩

lemma State.narrows_finished {s s' : State} {c : ℕ} (hcalls : s'.calls = s.calls.set c .finished) :
    s.Narrows s' := by
  intro c' report h
  rcases State.inserting_set hcalls h with ⟨-, h⟩ | ⟨-, h⟩
  · exact h
  · cases h

lemma State.narrows_opened {s s' : State} {report : SettlementReport}
    (hcalls : s'.calls = s.calls ++ [.opened report]) : s.Narrows s' := by
  intro c' report' h
  unfold State.Inserting at h ⊢
  rw [hcalls, List.getElem?_append] at h
  split_ifs at h with hlt
  · exact h
  · obtain ⟨_, hcall⟩ := List.getElem?_eq_some_iff.mp h
    simp at hcall

lemma State.finish_raises (s : State) (c : ℕ) (report : SettlementReport) (e : Error) :
    s.Does (s.finish c report (.error e)) :=
  .raises rfl (State.narrows_finished (c := c) rfl) report.key e rfl

lemma State.insert_does (s : State) (c : ℕ) (report : SettlementReport) :
    s.Does (s.insert c report) := by
  unfold State.insert
  split
  · exact s.finish_raises c report _
  · rename_i hinsert
    exact .repeats rfl (State.narrows_finished (c := c) rfl) _
      (SettlementRepository.insertReport_eq_none hinsert) rfl
  · rename_i hinsert
    split_ifs with hheld
    · exact .rests rfl rfl (fun _ _ h => h) rfl
    · refine .inserts rfl c report (fun c' report' hc' hkey => hheld ?_)
        (SettlementRepository.insertReport_eq_some hinsert).1 rfl rfl
      exact List.any_eq_true.mpr
        ⟨.inserted report', List.mem_of_getElem? hc', decide_eq_true hkey⟩

lemma State.conclude_does (s : State) (c : ℕ) (report : SettlementReport)
    (hc : s.Inserting c report) : s.Does (s.conclude c report) := by
  unfold State.conclude
  split
  · exact s.finish_raises c report _
  · rename_i status db hrun
    rcases SettlementRepository.ingest_cases hrun with ⟨rfl, rfl, htaken⟩ | hrecords
    · exact .repeats rfl (State.narrows_finished (c := c) rfl) _ htaken rfl
    · exact .concludes c report hc status hrecords rfl rfl

theorem State.step_does (s : State) (a : Action) : s.Does (s.step a) := by
  have hrests : s.Does s := .rests rfl rfl (fun _ _ h => h) rfl
  cases a with
  | submit x =>
    simp only [State.step]
    split
    · exact .raises rfl (fun _ _ h => h) _ _ rfl
    · exact .rests rfl rfl (State.narrows_opened rfl) rfl
  | insert c =>
    simp only [State.step]
    split
    · exact s.insert_does c _
    · exact hrests
  | conclude c =>
    simp only [State.step]
    split
    · rename_i report hc
      exact s.conclude_does c report hc
    · exact hrests
  | abandon c e =>
    simp only [State.step]
    split
    · exact s.finish_raises c _ e
    · exact s.finish_raises c _ e
    · exact hrests
  | other db => exact .rests rfl rfl (fun _ _ h => h) rfl

/-! ### What every run keeps -/

/-- What holds in every state the calls reach. -/
structure State.Invariant (s : State) : Prop where
  paired : List.Forall₂ Settlement.ConcludedBy s.db.settlements.rows s.db.reconciliationRecords
  filed : s.db.reconciliationRecords.map (·.settlementId) = List.range s.db.settlements.nextId
  answered : s.answers.filterMap Answer.settled? =
    s.db.settlements.rows.map fun row => ((row.providerName, row.settlementReference), row.status)
  taken : ∀ a ∈ s.answers, ∀ status, a.result = .ok status →
    ∃ row ∈ s.db.settlements.rows, Settlement.key row = some a.key
  free : ∀ c report, s.Inserting c report →
    ∀ row ∈ s.db.settlements.rows, Settlement.key row ≠ some report.key
  alone : ∀ c c' report report', s.Inserting c report → s.Inserting c' report' →
    report.key = report'.key → c = c'

lemma State.Invariant.start (db : Db) : (State.start db).Invariant where
  paired := .nil
  filed := rfl
  answered := rfl
  taken := by simp [State.start]
  free := by simp [State.start, State.Inserting]
  alone := by simp [State.start, State.Inserting]

/-- A step that leaves the two tables alone and narrows the calls keeps the invariant, if its
answers agree with the tables. -/
lemma State.Invariant.rests {s s' : State} (h : s.Invariant)
    (hsettlements : s'.db.settlements = s.db.settlements)
    (hrecords : s'.db.reconciliationRecords = s.db.reconciliationRecords)
    (hcalls : s.Narrows s')
    (hanswered : s'.answers.filterMap Answer.settled? = s.answers.filterMap Answer.settled?)
    (htaken : ∀ a ∈ s'.answers, ∀ status, a.result = .ok status →
      ∃ row ∈ s.db.settlements.rows, Settlement.key row = some a.key) :
    s'.Invariant where
  paired := by rw [hsettlements, hrecords]; exact h.paired
  filed := by rw [hsettlements, hrecords]; exact h.filed
  answered := by rw [hsettlements, hanswered]; exact h.answered
  taken := by rw [hsettlements]; exact htaken
  free c report hc := by rw [hsettlements]; exact h.free c report (hcalls c report hc)
  alone c c' report report' hc hc' :=
    h.alone c c' report report' (hcalls c report hc) (hcalls c' report' hc')

/-- The row that a call has inserted is the first with its key when the call concludes. -/
lemma State.Invariant.concludes {s s' : State} (h : s.Invariant) {c : ℕ}
    {report : SettlementReport} (hc : s.Inserting c report) {status : IngestStatus}
    (hrecords : s.db.Records report status s'.db)
    (hcalls : s'.calls = s.calls.set c .finished)
    (hanswers : s'.answers = s.answers ++ [⟨report.key, .ok status⟩]) : s'.Invariant := by
  obtain ⟨row, record, hrows, hrecs, hkey, hstatus, hid, hconcluded⟩ := hrecords.appended
  have hnarrow : s.Narrows s' := State.narrows_finished hcalls
  refine ⟨?_, ?_, ?_, ?_, ?_, fun c c' report report' hc hc' =>
    h.alone c c' report report' (hnarrow c report hc) (hnarrow c' report' hc')⟩
  · rw [hrows, hrecs]
    exact List.rel_append h.paired (.cons hconcluded .nil)
  · rw [hrecs, List.map_append, h.filed, Table.nextId_of_rows_append hrows, List.range_succ]
    simp [hid]
  · rw [hrows, hanswers, List.filterMap_append, h.answered, List.map_append]
    simp only [Settlement.key, Option.some.injEq] at hkey
    simp [Answer.settled?, hstatus, hkey]
  · intro a ha status' hstatus'
    rw [hanswers, List.mem_append] at ha
    rw [hrows]
    rcases ha with hold | hnew
    · obtain ⟨row', hrow', hkey'⟩ := h.taken a hold status' hstatus'
      exact ⟨row', List.mem_append_left _ hrow', hkey'⟩
    · cases List.mem_singleton.mp hnew
      exact ⟨row, List.mem_append_right _ (List.mem_singleton_self row), hkey⟩
  · intro c' report' hc' row' hrow' hkey'
    have hold := hnarrow c' report' hc'
    rw [hrows, List.mem_append] at hrow'
    rcases hrow' with hrow' | hrow'
    · exact h.free c' report' hold row' hrow' hkey'
    · -- two calls cannot hold one key, and the one that concluded is finished
      cases List.mem_singleton.mp hrow'
      have hsame : c' = c :=
        h.alone c' c report' report hold hc (Option.some.inj (hkey'.symm.trans hkey))
      rcases State.inserting_set hcalls hc' with ⟨hne, -⟩ | ⟨-, hcall⟩
      · exact hne hsame
      · cases hcall

/-- A call starts to hold a key that nobody holds. -/
lemma State.Invariant.inserts {s s' : State} (h : s.Invariant) (hdb : s'.db = s.db) {c : ℕ}
    {report : SettlementReport}
    (hfree : ∀ c' report', s.Inserting c' report' → report'.key ≠ report.key)
    (hfresh : ∀ row ∈ s.db.settlements.rows, Settlement.key row ≠ some report.key)
    (hcalls : s'.calls = s.calls.set c (.inserted report)) (hanswers : s'.answers = s.answers) :
    s'.Invariant where
  paired := by rw [hdb]; exact h.paired
  filed := by rw [hdb]; exact h.filed
  answered := by rw [hdb, hanswers]; exact h.answered
  taken := by rw [hdb, hanswers]; exact h.taken
  free c' report' hc' := by
    rw [hdb]
    rcases State.inserting_set hcalls hc' with ⟨-, hold⟩ | ⟨-, hcall⟩
    · exact h.free c' report' hold
    · cases hcall
      exact hfresh
  alone c₁ c₂ report₁ report₂ h₁ h₂ hkey := by
    rcases State.inserting_set hcalls h₁ with ⟨-, hold₁⟩ | ⟨rfl, hcall₁⟩ <;>
      rcases State.inserting_set hcalls h₂ with ⟨-, hold₂⟩ | ⟨rfl, hcall₂⟩
    · exact h.alone c₁ c₂ report₁ report₂ hold₁ hold₂ hkey
    · cases hcall₂
      exact absurd hkey (hfree c₁ report₁ hold₁)
    · cases hcall₁
      exact absurd hkey.symm (hfree c₂ report₂ hold₂)
    · rfl

theorem State.Invariant.step {s : State} (h : s.Invariant) (a : Action) : (s.step a).Invariant := by
  cases s.step_does a with
  | rests hsettlements hrecords hcalls hanswers =>
    exact h.rests hsettlements hrecords hcalls (by rw [hanswers]) (by rw [hanswers]; exact h.taken)
  | inserts hdb c report hfree hfresh hcalls hanswers =>
    exact h.inserts hdb hfree hfresh hcalls hanswers
  | raises hdb hcalls key e hanswers =>
    refine h.rests (by rw [hdb]) (by rw [hdb]) hcalls ?_ ?_
    · simp [hanswers, Answer.settled?]
    · intro a ha status hstatus
      rw [hanswers, List.mem_append] at ha
      rcases ha with hold | hnew
      · exact h.taken a hold status hstatus
      · cases List.mem_singleton.mp hnew
        cases hstatus
  | repeats hdb hcalls key htaken hanswers =>
    refine h.rests (by rw [hdb]) (by rw [hdb]) hcalls ?_ ?_
    · simp [hanswers, Answer.settled?, IngestStatus.settled?]
    · intro a ha status hstatus
      rw [hanswers, List.mem_append] at ha
      rcases ha with hold | hnew
      · exact h.taken a hold status hstatus
      · cases List.mem_singleton.mp hnew
        exact htaken
  | concludes c report hc status hrecords hcalls hanswers =>
    exact h.concludes hc hrecords hcalls hanswers

lemma State.run_invariant (db : Db) (as : List Action) :
    (Machine.run State.step (State.start db) as).Invariant :=
  Machine.run_invariant (fun _ a h => h.step a) (State.Invariant.start db) as

/-! ### The two tables in every run -/

/-- A settlement has one record, and the two agree. -/
def Concluded (db : Db) (i : ℕ) (settlement : Settlement) : Prop :=
  ∃ record, (db.reconciliationRecords.filter fun r => r.settlementId = i) = [record] ∧
    settlement.ConcludedBy record

lemma filter_eq_singleton {α β : Type*} [DecidableEq β] (f : α → β) {xs : List α}
    (h : (xs.map f).Nodup) {x : α} (hx : x ∈ xs) : (xs.filter fun y => f y = f x) = [x] := by
  induction xs with
  | nil => cases hx
  | cons y ys ih =>
    obtain ⟨hy, hys⟩ := List.nodup_cons.mp h
    rcases List.mem_cons.mp hx with rfl | hx
    · have hnone : (ys.filter fun y => f y = f x) = [] := by
        rw [List.filter_eq_nil_iff]
        intro z hz hfz
        exact hy (List.mem_map.mpr ⟨z, hz, of_decide_eq_true hfz⟩)
      rw [List.filter_cons_of_pos (by simp), hnone]
    · have hne : f y ≠ f x := fun heq => hy (heq ▸ List.mem_map_of_mem hx)
      rw [List.filter_cons_of_neg (by simpa using hne), ih hys hx]

lemma State.Invariant.concluded {s : State} (h : s.Invariant) {i : ℕ} {settlement : Settlement}
    (hi : s.db.settlements.get? i = some settlement) : Concluded s.db i settlement := by
  have hlen := h.paired.length_eq
  have hlt : i < s.db.reconciliationRecords.length := hlen ▸ Table.get?_lt hi
  have hrecord := List.getElem?_eq_getElem hlt
  have hfiled : (s.db.reconciliationRecords[i]).settlementId = i := by
    have := congrArg (·[i]?) h.filed
    simpa [hrecord, Table.get?_lt hi] using this
  have hnodup : (s.db.reconciliationRecords.map (·.settlementId)).Nodup :=
    h.filed ▸ List.nodup_range
  refine ⟨s.db.reconciliationRecords[i], ?_, ?_⟩
  · have := filter_eq_singleton (·.settlementId) hnodup (List.getElem_mem hlt)
    rwa [hfiled] at this
  · obtain ⟨hsettlement, hget⟩ := List.getElem?_eq_some_iff.mp hi
    rw [← hget]
    exact List.forall₂_iff_get.mp h.paired |>.2 i hsettlement hlt

/-- Every record belongs to a settlement. -/
lemma State.Invariant.owned {s : State} (h : s.Invariant) {record : ReconciliationRecord}
    (hrecord : record ∈ s.db.reconciliationRecords) :
    ∃ settlement, s.db.settlements.get? record.settlementId = some settlement := by
  have hmem : record.settlementId ∈ List.range s.db.settlements.nextId :=
    h.filed ▸ List.mem_map_of_mem hrecord
  exact ⟨_, List.getElem?_eq_getElem (List.mem_range.mp hmem)⟩

/-- What a call's step may do to the database: nothing but to the two tables, and nothing at all
when its answer is no conclusion. -/
def State.Contained (s : State) (a : Action) : Prop :=
  (∀ db, a ≠ .other db) →
    (s.step a).db = { s.db with
      settlements := (s.step a).db.settlements,
      reconciliationRecords := (s.step a).db.reconciliationRecords } ∧
    ∀ answer, (s.step a).answers = s.answers ++ [answer] → answer.settled? = none →
      (s.step a).db = s.db

lemma State.step_contained (s : State) (a : Action) : s.Contained a := by
  intro hcall
  cases a with
  | submit x =>
    simp only [State.step]
    split <;> exact ⟨rfl, fun _ _ _ => rfl⟩
  | insert c =>
    simp only [State.step]
    split
    · unfold State.insert
      split
      · exact ⟨rfl, fun _ _ _ => rfl⟩
      · exact ⟨rfl, fun _ _ _ => rfl⟩
      · split_ifs <;> exact ⟨rfl, fun _ _ _ => rfl⟩
    · exact ⟨rfl, fun _ _ _ => rfl⟩
  | conclude c =>
    simp only [State.step]
    split
    · rename_i report hc
      unfold State.conclude
      split
      · exact ⟨rfl, fun _ _ _ => rfl⟩
      · rename_i status db hrun
        obtain ⟨settlements, records, hdb⟩ := SettlementRepository.ingest_eq_ok hrun
        refine ⟨by simp [State.finish, hdb], fun answer hanswer hsettled => ?_⟩
        have heq : answer = ⟨report.key, .ok status⟩ := by
          simpa [State.finish, eq_comm] using hanswer
        subst heq
        rcases SettlementRepository.ingest_cases hrun with ⟨-, hsame, -⟩ | hrecords
        · exact hsame
        · obtain ⟨row, record, -, -, -, hstatus, -⟩ := hrecords.appended
          simp [Answer.settled?, hstatus] at hsettled
    · exact ⟨rfl, fun _ _ _ => rfl⟩
  | abandon c e =>
    simp only [State.step]
    split <;> exact ⟨rfl, fun _ _ _ => rfl⟩
  | other db => exact absurd rfl (hcall db)

/-- Rows and records are only ever appended. -/
def State.Appends (s s' : State) : Prop :=
  s.db.settlements.rows <+: s'.db.settlements.rows ∧
    s.db.reconciliationRecords <+: s'.db.reconciliationRecords

lemma State.Appends.refl (s : State) : s.Appends s := ⟨List.prefix_rfl, List.prefix_rfl⟩

lemma State.Appends.trans {s t u : State} (hst : s.Appends t) (htu : t.Appends u) : s.Appends u :=
  ⟨hst.1.trans htu.1, hst.2.trans htu.2⟩

lemma State.step_appends (s : State) (a : Action) : s.Appends (s.step a) := by
  have hsame : ∀ {s' : State}, s'.db.settlements = s.db.settlements →
      s'.db.reconciliationRecords = s.db.reconciliationRecords → s.Appends s' :=
    fun hsettlements hrecords =>
      ⟨by rw [hsettlements], by rw [hrecords]⟩
  cases s.step_does a with
  | rests hsettlements hrecords => exact hsame hsettlements hrecords
  | inserts hdb | raises hdb | repeats hdb => exact hsame (by rw [hdb]) (by rw [hdb])
  | concludes c report hc status hrecords =>
    obtain ⟨row, record, hrows, hrecs, -⟩ := hrecords.appended
    exact ⟨hrows ▸ List.prefix_append _ _, hrecs ▸ List.prefix_append _ _⟩

lemma State.run_appends (s : State) (as : List Action) :
    s.Appends (Machine.run State.step s as) :=
  Machine.run_relates (I := fun _ => True) State.Appends.refl (fun _ _ _ => State.Appends.trans)
    (fun _ _ _ => trivial) (fun s a _ => s.step_appends a) trivial as

/-- However `ingest` calls are interleaved with each other and with other transactions: each
accepted name has one settlement row and one record, the two agree and never change again, the
rows are those of the accepted calls in the order in which they committed, a call that raises or
repeats a report leaves nothing, and no call writes another table. -/
theorem run_settles (db : Db) (before after : List Action) :
    let s := Machine.run State.step (State.start db) before
    let t := Machine.run State.step s after
    (∀ key, (s.db.settlements.rows.filter fun row => Settlement.key row = some key).length ≤ 1) ∧
    (∀ i settlement, s.db.settlements.get? i = some settlement → Concluded s.db i settlement) ∧
    (∀ record ∈ s.db.reconciliationRecords,
      ∃ settlement, s.db.settlements.get? record.settlementId = some settlement) ∧
    (∀ a ∈ s.answers, ∀ status, a.result = .ok status →
      ∃ i settlement, s.db.settlements.get? i = some settlement ∧
        Settlement.key settlement = some a.key) ∧
    (s.db.settlements.rows.map fun row =>
      ((row.providerName, row.settlementReference), row.status)) =
        s.answers.filterMap Answer.settled? ∧
    s.db.settlements.rows <+: t.db.settlements.rows ∧
    s.db.reconciliationRecords <+: t.db.reconciliationRecords ∧
    Machine.Along State.step State.Contained (State.start db) before := by
  intro s t
  have hs : s.Invariant := State.run_invariant db before
  refine ⟨fun key => s.db.settlements.length_filter_key key, fun i settlement hi => hs.concluded hi,
    fun record hrecord => hs.owned hrecord, fun a ha status hstatus => ?_, hs.answered.symm,
    (State.run_appends s after).1, (State.run_appends s after).2, ?_⟩
  · obtain ⟨row, hrow, hkey⟩ := hs.taken a ha status hstatus
    obtain ⟨i, hi⟩ := List.getElem?_of_mem hrow
    exact ⟨i, row, hi, hkey⟩
  · exact Machine.along_of_forall State.step_contained _ _

end Ingestion

end AgentPay
