import AgentPay.Webhooks

/-!
# Settlement reports

`settlement.py` and `reconciliation.compare_amounts`: a report is recorded and compared with the
operation it names.
-/

namespace AgentPay

open Support

/-- `compare_amounts` -/
def compareAmounts (expected observed : Decimal) (expectedCurrency observedCurrency : String) :
    ReconciliationStatus × Option String :=
  if normCurrency expectedCurrency ≠ normCurrency observedCurrency then
    (.discrepancy, some "CURRENCY_MISMATCH")
  else if expected.units ≠ observed.units then (.discrepancy, some "AMOUNT_MISMATCH")
  else (.matched, none)

lemma compareAmounts_matched {expected observed : Decimal}
    {expectedCurrency observedCurrency : String} :
    compareAmounts expected observed expectedCurrency observedCurrency = (.matched, none) ↔
      normCurrency expectedCurrency = normCurrency observedCurrency ∧
        expected.units = observed.units := by
  rw [compareAmounts]
  split_ifs with hcurrency hunits
  · simp [hcurrency]
  · simp [hunits]
  · simp [not_not.mp hcurrency, not_not.mp hunits]

/-- A report as it is submitted. -/
structure SettlementReport where
  providerName : String
  settlementReference : String
  providerReference : String
  amount : Decimal
  currency : String
  deriving DecidableEq, Repr

/-- What `ingest` answers. -/
inductive IngestStatus where
  | duplicate
  | matched
  | discrepancy
  deriving DecidableEq, Repr

namespace SettlementRepository

/-- The conclusion about the operation that the reference names. -/
def reconcile (operation : Option (OperationId × ProviderOperation × Payment)) (observed : Decimal)
    (observedCurrency : String) : ReconciliationStatus × Option String :=
  match operation with
  | none => (.discrepancy, some "UNKNOWN_PROVIDER_REFERENCE")
  | some (_, operation, payment) =>
    if operation.status ≠ .succeeded then (.discrepancy, some "STATUS_MISMATCH")
    else compareAmounts payment.amount.toDecimal observed payment.currency observedCurrency

/-- What the normalised report must say. -/
def validateReport (report : SettlementReport) : Except Error Unit :=
  if strip report.providerName = "" ∨ strip report.settlementReference = "" ∨
      strip report.providerReference = "" then
    .error (.valueError "provider and settlement references are required")
  else if report.amount.units ≤ 0 then
    .error (.valueError "observed settlement amount must be positive")
  else if (normCurrency report.currency).length ≠ 3 then
    .error (.valueError "observed settlement currency must be ISO-4217 alpha-3")
  else .ok ()

/-- The insert: `none` where the unique index already holds the reference. -/
def insertReport (db : Db) (report : SettlementReport) :
    Except Error (Option (Table Settlement Settlement.key)) := do
  let amount ← storeNumeric report.amount
  return db.settlements.insert?
    { providerName := strip report.providerName,
      settlementReference := strip report.settlementReference,
      currency := normCurrency report.currency, amount, status := .reported }

/-- The operation that a reference names, with its payment. -/
def reportedOperation (db : Db) (providerReference : String) :
    Option (OperationId × ProviderOperation × Payment) := do
  let (id, operation) ← findOperation db providerReference
  let payment ← db.payments.get? operation.paymentId
  return (id, operation, payment)

/-- What follows a successful insert: the operation is found, the conclusion is recorded and the
settlement's status is set. -/
def conclude (db : Db) (report : SettlementReport) (settlements : Table Settlement Settlement.key) :
    IngestStatus × Db :=
  let settlementId := db.settlements.nextId
  let currency := normCurrency report.currency
  let operation := reportedOperation db (strip report.providerReference)
  let (status, code) := reconcile operation report.amount currency
  let record : ReconciliationRecord :=
    { settlementId, providerOperationId := operation.map (·.1), status,
      expectedAmount := operation.map (·.2.2.amount),
      observedAmount := roundUnits report.amount.units,
      expectedCurrency := operation.map (·.2.2.currency), observedCurrency := currency,
      discrepancyCode := code }
  let settled := if status = .matched then .reconciled else .discrepancy
  (if status = .matched then .matched else .discrepancy,
    { db with
      settlements := settlements.update settlementId (fun s => { s with status := settled })
        fun _ => rfl
      reconciliationRecords := db.reconciliationRecords ++ [record] })

/-- `ingest` -/
def ingest (db : Db) (report : SettlementReport) : Except Error (IngestStatus × Db) := do
  validateReport report
  match ← insertReport db report with
  | none => return (.duplicate, db)
  | some settlements => return conclude db report settlements

end SettlementRepository

end AgentPay
