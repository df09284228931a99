import AgentPay.PolicyOrder

/-!
# Windows that span midnight

A schedule tests the weekday of the instant and its time of day one after the other. A window whose
start is later than its end is open overnight, and what is open after midnight started on the day
before: there the weekday that is tested is not the one the window started on.
-/

namespace AgentPay

/-! ### Occurrences of a window -/

/-- `datetime.weekday` of a day by its ordinal; day 1 is a Monday. -/
def weekday (ordinal : ℤ) : Fin 7 := ⟨((ordinal + 6) % 7).toNat, by omega⟩

/-- `requested_at`: a day by its ordinal, with a time of day. -/
structure DateTime where
  ordinal : ℤ
  timeOfDay : TimeOfDay
  deriving DecidableEq, Repr

/-- What a schedule reads of it. -/
def DateTime.instant (t : DateTime) : Instant := ⟨weekday t.ordinal, t.timeOfDay⟩

/-- Microseconds since the first instant of day 0. -/
def DateTime.elapsed (t : DateTime) : ℤ := t.ordinal * 86400000000 + t.timeOfDay

/-- The window that starts on a day and is open overnight. -/
structure Overnight (start end' : TimeOfDay) (ordinal : ℤ) (t : DateTime) : Prop where
  started : DateTime.elapsed ⟨ordinal, start⟩ ≤ t.elapsed
  not_ended : t.elapsed ≤ DateTime.elapsed ⟨ordinal + 1, end'⟩

/-- The day on which the window that is open at `t` started. -/
def DateTime.windowDay (t : DateTime) (end' : TimeOfDay) : ℤ :=
  if t.timeOfDay ≤ end' then t.ordinal - 1 else t.ordinal

variable {start end' : TimeOfDay} {t : DateTime}

lemma timeInWindow_overnight (hwindow : end' < start) (value : TimeOfDay) :
    timeInWindow value (some start) (some end') ↔ start ≤ value ∨ value ≤ end' := by
  simp [timeInWindow, not_le.mpr hwindow]

/-- An overnight window is open at an instant for the one occurrence that `windowDay` names. -/
theorem overnight_iff (hwindow : end' < start) (ordinal : ℤ) :
    Overnight start end' ordinal t ↔
      timeInWindow t.timeOfDay (some start) (some end') ∧ ordinal = t.windowDay end' := by
  have hstart := start.isLt
  have htime := t.timeOfDay.isLt
  rw [timeInWindow_overnight hwindow, DateTime.windowDay]
  simp only [Fin.le_def, Fin.lt_def] at hwindow ⊢
  constructor
  · rintro ⟨hstarted, hended⟩
    simp only [DateTime.elapsed] at hstarted hended
    split_ifs <;> omega
  · rintro ⟨hopen, rfl⟩
    constructor <;> simp only [DateTime.elapsed] <;> split_ifs <;> omega

/-! ### What a schedule admits -/

/-- Nothing in the schedule speaks against the instant. -/
def SpendingPolicy.OnSchedule (policy : SpendingPolicy) (t : DateTime) : Prop :=
  scheduleReasons policy (some t.instant) = []

instance (policy : SpendingPolicy) (t : DateTime) : Decidable (policy.OnSchedule t) :=
  inferInstanceAs (Decidable (_ = _))

/-- An intent that is off the schedule is denied. -/
lemma SpendingPolicy.deny_of_not_onSchedule {policy : SpendingPolicy} {intent : PaymentIntent}
    {category : Option String} (hat : intent.requestedAt = some t.instant)
    (hoff : ¬ policy.OnSchedule t) :
    (policy.evaluateWithTrace intent category).decision = .deny := by
  rw [deny_iff]
  rintro ⟨-, hadmits⟩
  have hat' : (intent.context category).requestedAt = some t.instant := hat
  apply hoff
  rw [OnSchedule, scheduleReasons_eq_nil, ← hat']
  exact ⟨hadmits.weekday, hadmits.window⟩

variable {policy : SpendingPolicy} {W : List (Fin 7)}

/-- Inside its time window a schedule decides by the weekday of the instant. -/
lemma SpendingPolicy.onSchedule_iff_weekday (hdays : policy.allowedWeekdays = some W)
    (hin : timeInWindow t.timeOfDay policy.startTime policy.endTime) :
    policy.OnSchedule t ↔ weekday t.ordinal ∈ W := by
  simp [OnSchedule, scheduleReasons, hdays, DateTime.instant, hin, reasonIf_eq_nil]

/-- A schedule with an overnight window goes by the weekday on which the window started at exactly
the instants that lie before midnight, or whose day and the day before are both in the set of
weekdays or both outside it. -/
theorem onSchedule_iff_windowDay (hdays : policy.allowedWeekdays = some W)
    (hstart : policy.startTime = some start) (hend : policy.endTime = some end')
    (hwindow : end' < start) (hin : timeInWindow t.timeOfDay policy.startTime policy.endTime) :
    (policy.OnSchedule t ↔ weekday (t.windowDay end') ∈ W) ↔
      start ≤ t.timeOfDay ∨ (weekday t.ordinal ∈ W ↔ weekday (t.ordinal - 1) ∈ W) := by
  rw [policy.onSchedule_iff_weekday hdays hin, DateTime.windowDay]
  rw [hstart, hend, timeInWindow_overnight hwindow] at hin
  obtain hlate | hearly := hin
  · have hafter : ¬ t.timeOfDay ≤ end' := not_le.mpr (hwindow.trans_le hlate)
    simp [hafter, hlate]
  · have hbefore : ¬ start ≤ t.timeOfDay := not_le.mpr (hearly.trans_lt hwindow)
    simp [hearly, hbefore]

/-- Open on Mondays, from ten in the evening until two at night. -/
def SpendingPolicy.mondayNights : SpendingPolicy where
  perTransactionLimit := .finite ⟨300, 0⟩
  allowedWeekdays := some [0]
  startTime := some 79200000000
  endTime := some 7200000000

theorem onSchedule_iff_windowDay_mondayNights :
    (SpendingPolicy.mondayNights.OnSchedule ⟨1, 84600000000⟩ ↔
        weekday (DateTime.windowDay ⟨1, 84600000000⟩ 7200000000) ∈ [(0 : Fin 7)]) ↔
      (79200000000 : TimeOfDay) ≤ 84600000000 ∨
        (weekday 1 ∈ [(0 : Fin 7)] ↔ weekday (1 - 1) ∈ [(0 : Fin 7)]) := by
  have hdays : SpendingPolicy.mondayNights.allowedWeekdays = some [0] := rfl
  exact onSchedule_iff_windowDay hdays rfl rfl (by decide) (by decide)

/-- One in the morning of a Tuesday is off the schedule of Monday nights, although the window that
is open then started on the Monday. -/
theorem windowDay_mondayNights :
    ¬ ∀ (policy : SpendingPolicy) (W : List (Fin 7)) (start end' : TimeOfDay) (t : DateTime),
      policy.allowedWeekdays = some W → policy.startTime = some start →
      policy.endTime = some end' → end' < start →
      timeInWindow t.timeOfDay policy.startTime policy.endTime →
      (policy.OnSchedule t ↔ weekday (t.windowDay end') ∈ W) := by
  intro hall
  have htuesday := hall .mondayNights [0] 79200000000 7200000000 ⟨2, 3600000000⟩ rfl rfl rfl
    (by decide) (by decide)
  exact absurd htuesday (by decide)

/-- A policy whose window is open overnight goes by the day it started on at every instant just
when it allows every weekday or none. -/
theorem onSchedule_forall_iff (hdays : policy.allowedWeekdays = some W)
    (hstart : policy.startTime = some start) (hend : policy.endTime = some end')
    (hwindow : end' < start) :
    (∀ t : DateTime, timeInWindow t.timeOfDay policy.startTime policy.endTime →
        (policy.OnSchedule t ↔ weekday (t.windowDay end') ∈ W)) ↔
      (∀ day, day ∈ W) ∨ ∀ day, day ∉ W := by
  constructor
  · intro hall
    -- midnight lies in the half of the window that belongs to the day before
    have hmidnight (n : ℤ) : weekday n ∈ W ↔ weekday (n - 1) ∈ W := by
      have hin : timeInWindow 0 policy.startTime policy.endTime := by
        rw [hstart, hend, timeInWindow_overnight hwindow]
        exact .inr (Fin.zero_le _)
      rw [← policy.onSchedule_iff_weekday (t := ⟨n, 0⟩) hdays hin, hall ⟨n, 0⟩ hin]
      simp [DateTime.windowDay]
    have hsunday (n : ℕ) : weekday n ∈ W ↔ weekday 0 ∈ W := by
      induction n with
      | zero => rfl
      | succ n ih =>
        rw [hmidnight, Nat.cast_succ, add_sub_cancel_right]
        exact ih
    have hday (day : Fin 7) : day ∈ W ↔ weekday 0 ∈ W := by
      have hordinal : weekday (day + 1 : ℕ) = day := by
        ext
        simp only [weekday]
        omega
      rw [← hsunday (day + 1), hordinal]
    by_cases hmem : weekday 0 ∈ W
    · exact .inl fun day => (hday day).mpr hmem
    · exact .inr fun day => mt (hday day).mp hmem
  · rintro (hall | hnone) t hin
    · rw [policy.onSchedule_iff_weekday hdays hin]
      exact iff_of_true (hall _) (hall _)
    · rw [policy.onSchedule_iff_weekday hdays hin]
      exact iff_of_false (hnone _) (hnone _)

end AgentPay
