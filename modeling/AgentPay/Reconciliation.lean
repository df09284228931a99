import AgentPay.References

/-!
# Reconciliation records

`ingest` compares the amount as it was reported and stores it rounded. The verdict can be checked
against the record unless the rounding brings the amount to the expected one.
-/

namespace AgentPay

open Support

/-- `compare_amounts` on the columns of a record, where all of them are filled in. -/
def ReconciliationRecord.recompare (record : ReconciliationRecord) :
    Option (ReconciliationStatus × Option String) := do
  let expectedAmount ← record.expectedAmount
  let expectedCurrency ← record.expectedCurrency
  return compareAmounts expectedAmount.toDecimal ⟨record.observedAmount, 4⟩ expectedCurrency
    record.observedCurrency

/-- The record that came with the last report bears out its verdict, and agrees with the settlement
row on the amount. -/
structure Reproducible (db db' : Db) (record : ReconciliationRecord) : Prop where
  recorded : db'.reconciliationRecords = db.reconciliationRecords ++ [record]
  verdict : record.recompare = some (record.status, record.discrepancyCode)
  amount : (db'.settlements.get? record.settlementId).map (·.amount) = some record.observedAmount

/-- The amount of a column, read back. -/
@[simp] lemma Decimal.units_ofUnits (n : ℤ) : (⟨n, 4⟩ : Decimal).units = n := by
  rw [Decimal.units]
  norm_num

namespace SettlementRepository

variable {db db' : Db} {report : SettlementReport}

/-- What a report that is not a duplicate goes through. -/
lemma ingest_concludes {status : IngestStatus} (hnew : status ≠ .duplicate)
    (h : ingest db report = .ok (status, db')) :
    ∃ settlements, insertReport db report = .ok (some settlements) ∧
      db' = (conclude db report settlements).2 := by
  rw [ingest] at h
  obtain ⟨-, -, h⟩ := Except.bind_eq_ok.mp h
  obtain ⟨inserted, hinsert, h⟩ := Except.bind_eq_ok.mp h
  cases inserted with
  | none =>
    obtain ⟨rfl, -⟩ := Prod.mk.inj (Except.ok.inj h)
    exact absurd rfl hnew
  | some settlements => exact ⟨settlements, hinsert, (congrArg Prod.snd (Except.ok.inj h)).symm⟩

/-- The inserted row has the rounded amount. -/
lemma insertReport_get? {settlements : Table Settlement Settlement.key}
    (h : insertReport db report = .ok (some settlements)) :
    ∃ row, settlements.get? db.settlements.nextId = some row ∧
      row.amount = roundUnits report.amount.units := by
  rw [insertReport] at h
  obtain ⟨amount, hamount, h⟩ := Except.bind_eq_ok.mp h
  obtain ⟨-, hrows⟩ := Table.insert?_eq_some.mp (Except.ok.inj h)
  refine ⟨_, by rw [Table.get?_of_rows_append hrows, if_pos rfl], ?_⟩
  simp only [storeNumeric] at hamount
  split_ifs at hamount
  exact (Except.ok.inj hamount).symm

/-- The verdict on a charge that succeeded compares with the exact amount, the record with the
rounded one. -/
lemma compareAmounts_rounded_iff (expected : Amount) (observed : Decimal)
    (expectedCurrency observedCurrency : String) :
    compareAmounts expected.toDecimal ⟨roundUnits observed.units, 4⟩ expectedCurrency
        observedCurrency =
      compareAmounts expected.toDecimal observed expectedCurrency observedCurrency ↔
    (normCurrency expectedCurrency = normCurrency observedCurrency →
      roundUnits observed.units = (expected.units : ℤ) → observed.units = expected.units) := by
  simp only [compareAmounts, Amount.units_toDecimal, Decimal.units_ofUnits]
  by_cases hcurrency : normCurrency expectedCurrency = normCurrency observedCurrency
  · simp only [hcurrency, ne_eq, not_true_eq_false, if_false, forall_const]
    by_cases hamount : (expected.units : ℚ) = observed.units
    · -- a whole amount: rounding leaves it
      rw [← hamount, roundUnits_natCast]
      simp
    · by_cases hrounded : roundUnits observed.units = (expected.units : ℤ)
      · simp [hamount, hrounded, Ne.symm hamount]
      · have hrounded' : (expected.units : ℚ) ≠ (roundUnits observed.units : ℚ) := by
          intro h
          exact hrounded (by exact_mod_cast h.symm)
        simp [hamount, hrounded, hrounded']
  · simp [hcurrency]

/-- The record of a report about a charge that succeeded can be checked against its columns exactly
when the reported amount is the expected one, or does not round to it, or is in another currency. -/
theorem reproducible_iff {status : IngestStatus} (hingest : ingest db report = .ok (status, db'))
    (hnew : status ≠ .duplicate) {id : OperationId} {operation : ProviderOperation}
    {payment : Payment}
    (hoperation : reportedOperation db (strip report.providerReference) =
      some (id, operation, payment)) (hsucceeded : operation.status = .succeeded) :
    (∃ record, Reproducible db db' record) ↔
      (report.amount.units = payment.amount.units ∨
        roundUnits report.amount.units ≠ payment.amount.units ∨
        normCurrency report.currency ≠ normCurrency payment.currency) := by
  obtain ⟨settlements, hinsert, rfl⟩ := ingest_concludes hnew hingest
  obtain ⟨row, hrow, hamount⟩ := insertReport_get? hinsert
  obtain ⟨verdict, hcompare⟩ : ∃ verdict, compareAmounts payment.amount.toDecimal report.amount
      payment.currency (normCurrency report.currency) = verdict := ⟨_, rfl⟩
  have hverdict : reconcile (some (id, operation, payment)) report.amount
      (normCurrency report.currency) = verdict := by
    simp only [reconcile, hsucceeded, ne_eq, not_true_eq_false, if_false, hcompare]
  obtain ⟨record, hrecord⟩ : ∃ record : ReconciliationRecord, record =
      { settlementId := db.settlements.nextId, providerOperationId := some id,
        status := verdict.1, expectedAmount := some payment.amount,
        observedAmount := roundUnits report.amount.units,
        expectedCurrency := some payment.currency,
        observedCurrency := normCurrency report.currency, discrepancyCode := verdict.2 } :=
    ⟨_, rfl⟩
  have hrecords : (conclude db report settlements).2.reconciliationRecords =
      db.reconciliationRecords ++ [record] := by
    simp only [conclude, hoperation, hverdict, hrecord]
    rfl
  have hsettled : ((conclude db report settlements).2.settlements.get?
      db.settlements.nextId).map (·.amount) = some (roundUnits report.amount.units) := by
    simp only [conclude, Table.get?_update_self, hrow, Option.map_some, hamount]
  have hiff : record.recompare = some (record.status, record.discrepancyCode) ↔
      (normCurrency payment.currency = normCurrency report.currency →
        roundUnits report.amount.units = (payment.amount.units : ℤ) →
          report.amount.units = payment.amount.units) := by
    have hrecompare : record.recompare = some (compareAmounts payment.amount.toDecimal
        ⟨roundUnits report.amount.units, 4⟩ payment.currency (normCurrency report.currency)) := by
      rw [hrecord]
      rfl
    have hrounded := compareAmounts_rounded_iff payment.amount report.amount payment.currency
      (normCurrency report.currency)
    rw [hcompare, normCurrency_normCurrency] at hrounded
    rw [hrecompare, Option.some_inj, ← hrounded, hrecord]
  have hclaim : (∃ record, Reproducible db (conclude db report settlements).2 record) ↔
      record.recompare = some (record.status, record.discrepancyCode) := by
    constructor
    · rintro ⟨record', hrecorded, hverdict', -⟩
      rw [hrecords] at hrecorded
      obtain rfl := List.singleton_inj.mp (List.append_cancel_left hrecorded)
      exact hverdict'
    · intro h
      refine ⟨record, hrecords, h, ?_⟩
      rw [hrecord]
      exact hsettled
  rw [hclaim, hiff]
  constructor
  · intro h
    by_cases hcurrency : normCurrency report.currency = normCurrency payment.currency
    · by_cases hrounded : roundUnits report.amount.units = payment.amount.units
      · exact .inl (h hcurrency.symm hrounded)
      · exact .inr (.inl hrounded)
    · exact .inr (.inr hcurrency)
  · rintro (hamount' | hrounded | hcurrency) hsame hrounds
    · exact hamount'
    · exact absurd hrounds hrounded
    · exact absurd hsame.symm hcurrency

end SettlementRepository

/-! ### A report that is off by less than a ten-thousandth -/

/-- The books after a worker's charge of 25 USD has succeeded under the reference `r`. -/
def Db.settledSample : Db :=
  (Machine.run (State.step .bare) (.start (.seeded .processing (some .reserved)))
    [.mark 0 ⟨0, 1⟩, .read 0, .charge 0 ⟨.succeeded, some "r"⟩, .finalize 0]).db

lemma Db.settledSample_operation : ∃ id operation payment,
    SettlementRepository.reportedOperation Db.settledSample "r" = some (id, operation, payment) ∧
      operation.status = .succeeded ∧ payment.amount.units = 250000 := by
  have hfound : (SettlementRepository.reportedOperation Db.settledSample "r").map
      (fun found => (found.2.1.status, found.2.2.amount.units)) = some (.succeeded, 250000) := by
    decide +kernel
  obtain ⟨⟨id, operation, payment⟩, hoperation, hfields⟩ := Option.map_eq_some_iff.mp hfound
  obtain ⟨hstatus, hunits⟩ := Prod.mk.inj hfields
  exact ⟨id, operation, payment, hoperation, hstatus, hunits⟩

/-- A report of 25 can be checked against its record. -/
theorem SettlementRepository.reproducible_iff_sample :
    ∃ db' record, ingest Db.settledSample (.sample "r") = .ok (.matched, db') ∧
      Reproducible Db.settledSample db' record := by
  have hmatched : (ingest Db.settledSample (.sample "r")).map (·.1) = .ok .matched := by
    decide +kernel
  obtain ⟨id, operation, payment, hoperation, hstatus, hunits⟩ := Db.settledSample_operation
  cases hingest : ingest Db.settledSample (.sample "r") with
  | error e =>
    rw [hingest] at hmatched
    cases hmatched
  | ok answer =>
    obtain ⟨status, db'⟩ := answer
    rw [hingest] at hmatched
    obtain rfl : status = .matched := Except.ok.inj hmatched
    have hamount : (SettlementReport.sample "r").amount.units = payment.amount.units := by
      rw [hunits]
      norm_num [SettlementReport.sample, Decimal.units]
    obtain ⟨record, hrecord⟩ :=
      (reproducible_iff hingest (by decide) hoperation hstatus).mpr (.inl hamount)
    exact ⟨db', record, rfl, hrecord⟩

/-- A report of 25.00004 is recorded as a mismatch of 25.0000 with 25.0000. -/
theorem SettlementRepository.not_reproducible_rounded :
    ∃ db', ingest Db.settledSample { SettlementReport.sample "r" with amount := ⟨2500004, 5⟩ } =
        .ok (.discrepancy, db') ∧ ¬ ∃ record, Reproducible Db.settledSample db' record := by
  have hstatus : (ingest Db.settledSample
      { SettlementReport.sample "r" with amount := ⟨2500004, 5⟩ }).map (·.1) =
      .ok .discrepancy := by
    decide +kernel
  have hrecompare : (ingest Db.settledSample
      { SettlementReport.sample "r" with amount := ⟨2500004, 5⟩ }).map (fun answer =>
        answer.2.reconciliationRecords.map (·.recompare)) = .ok [some (.matched, none)] := by
    decide +kernel
  have hrecorded : (ingest Db.settledSample
      { SettlementReport.sample "r" with amount := ⟨2500004, 5⟩ }).map (fun answer =>
        answer.2.reconciliationRecords.map (·.discrepancyCode)) =
          .ok [some "AMOUNT_MISMATCH"] := by
    decide +kernel
  have hbefore : Db.settledSample.reconciliationRecords = [] := by decide +kernel
  cases hingest : ingest Db.settledSample
      { SettlementReport.sample "r" with amount := ⟨2500004, 5⟩ } with
  | error e =>
    rw [hingest] at hstatus
    cases hstatus
  | ok answer =>
    obtain ⟨status, db'⟩ := answer
    rw [hingest] at hstatus hrecompare hrecorded
    obtain rfl : status = .discrepancy := Except.ok.inj hstatus
    refine ⟨db', rfl, ?_⟩
    rintro ⟨record, hrecords, hverdict, -⟩
    rw [hbefore, List.nil_append] at hrecords
    have hrecompare : db'.reconciliationRecords.map (·.recompare) = [some (.matched, none)] :=
      Except.ok.inj hrecompare
    have hrecorded : db'.reconciliationRecords.map (·.discrepancyCode) =
        [some "AMOUNT_MISMATCH"] :=
      Except.ok.inj hrecorded
    rw [hrecords] at hrecompare hrecorded
    have hrecompare : record.recompare = some (.matched, none) := List.singleton_inj.mp hrecompare
    have hrecorded : record.discrepancyCode = some "AMOUNT_MISMATCH" :=
      List.singleton_inj.mp hrecorded
    rw [hrecompare, hrecorded] at hverdict
    cases congrArg Prod.snd (Option.some.inj hverdict)

end AgentPay
