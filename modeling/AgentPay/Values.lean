import AgentPay.Support.Casing
import AgentPay.Support.Digits
import Mathlib.Data.Rat.Floor
import Mathlib.Tactic.Linarith
import Mathlib.Tactic.Ring
import Mathlib.Tactic.FieldSimp
import Mathlib.Tactic.Positivity
import Mathlib.Tactic.NormNum

/-!
# Errors, text and amounts

Python's `Decimal` keeps its spelling (`10`, `10.0` and `10.00` differ), PostgreSQL's
`NUMERIC(20,4)` does not: a column value is a number of ten-thousandths. Storing a decimal rounds
it half away from zero and is refused when it does not fit or fails the column's `CHECK`.
-/

namespace AgentPay

/-- What a unit of work can raise. `http` is FastAPI's `HTTPException`; the last four are the
constraint violations PostgreSQL reports. -/
inductive Error where
  | valueError (message : String)
  | permissionError (message : String)
  | lookupError (message : String)
  | runtimeError (message : String)
  | typeError (message : String)
  | http (status : ℕ) (detail : String)
  | uniqueViolation
  | checkViolation
  | foreignKeyViolation
  | numericOverflow
  | invalidOperation
  | attributeError
  | dataError
  | featureNotSupported
  deriving DecidableEq, Repr

/-- A sequenced computation succeeds when both of its parts do. -/
lemma Except.bind_eq_ok {ε : Type*} {α β : Type} {x : Except ε α} {f : α → Except ε β} {b : β} :
    (x >>= f) = .ok b ↔ ∃ a, x = .ok a ∧ f a = .ok b := by
  cases x <;> simp [bind, Except.bind]

/-! ### Text -/

/-- `str.strip` -/
def strip (s : String) : String := String.ofList (Support.Unicode.strip s.toList)

/-- `str.upper` -/
def upper (s : String) : String := String.ofList (Support.Unicode.upper s.toList)

/-- `str.lower` -/
def lower (s : String) : String := String.ofList (Support.Unicode.lower s.toList)

/-- `currency.strip().upper()` -/
def normCurrency (c : String) : String := upper (strip c)

/-- A `CHAR(3)` column takes the text: what exceeds three characters is blank. -/
def fitsChar3 (s : String) : Bool := (s.toList.drop 3).all (· = ' ')

/-! ### Decimals -/

/-- A finite decimal as it is spelled: `coeff / 10 ^ scale`, so `12.50` is `⟨1250, 2⟩`. -/
structure Decimal where
  coeff : ℤ
  scale : ℕ
  deriving DecidableEq, Repr

/-- `str(decimal)`, in fixed notation. -/
def Decimal.text (d : Decimal) : String :=
  let digits := toString d.coeff.natAbs
  let padded := String.ofList (List.replicate (d.scale + 1 - digits.length) '0') ++ digits
  let whole := padded.toList.take (padded.length - d.scale)
  let places := padded.toList.drop (padded.length - d.scale)
  (if d.coeff < 0 then "-" else "") ++ String.ofList whole ++
    (if d.scale = 0 then "" else "." ++ String.ofList places)

/-- The default context of decimal arithmetic: a result keeps 28 significant digits, ties to
even. -/
def context (q : ℚ) : ℚ := Support.roundDigits 28 q

/-- The value of a decimal in ten-thousandths. -/
def Decimal.units (d : Decimal) : ℚ := d.coeff * 10000 / 10 ^ d.scale

/-- `NUMERIC(20,4)` rounding: to the nearest ten-thousandth, halves away from zero. -/
def roundUnits (q : ℚ) : ℤ := if 0 ≤ q then ⌊q + 1 / 2⌋ else ⌈q - 1 / 2⌉

/-- The first value `NUMERIC(20,4)` cannot hold, in ten-thousandths. -/
def numericLimit : ℕ := 10 ^ 20

/-- A `NUMERIC(20,4) NOT NULL CHECK (amount > 0)` column value. -/
structure Amount where
  units : ℕ
  pos : 0 < units
  fits : units < numericLimit
  deriving DecidableEq, Repr

/-- `Decimal(str(column))`: psycopg returns the column with its four places. -/
def Amount.toDecimal (a : Amount) : Decimal := ⟨a.units, 4⟩

/-- Store a decimal in a column with `CHECK (amount > 0)`. -/
def Amount.store (d : Decimal) : Except Error Amount :=
  let n := roundUnits d.units
  if hf : n.natAbs < numericLimit then
    if hp : 0 < n then .ok ⟨n.natAbs, by omega, hf⟩ else .error .checkViolation
  else .error .numericOverflow

/-- Store a decimal in a `NUMERIC(20,4)` column without a check, in ten-thousandths. -/
def storeNumeric (d : Decimal) : Except Error ℤ :=
  let n := roundUnits d.units
  if n.natAbs < numericLimit then .ok n else .error .numericOverflow

/-! ### Arithmetic of stored values -/

@[ext] lemma Amount.ext {a b : Amount} (h : a.units = b.units) : a = b := by
  cases a
  cases b
  simp_all

@[simp] lemma Amount.units_toDecimal (a : Amount) : a.toDecimal.units = a.units := by
  simp only [Amount.toDecimal, Decimal.units, Int.cast_natCast]
  norm_num

/-- Rounding leaves a whole number of ten-thousandths alone. -/
@[simp] lemma roundUnits_intCast (n : ℤ) : roundUnits n = n := by
  unfold roundUnits
  split_ifs
  · rw [Int.floor_eq_iff]
    constructor <;> linarith
  · rw [Int.ceil_eq_iff]
    constructor <;> linarith

@[simp] lemma roundUnits_natCast (n : ℕ) : roundUnits n = n := by
  exact_mod_cast roundUnits_intCast n

/-- Adding a non-negative whole number commutes with rounding a non-negative value. -/
lemma roundUnits_natCast_add (n : ℕ) {q : ℚ} (hq : 0 ≤ q) :
    roundUnits (n + q) = n + roundUnits q := by
  have hn : (0 : ℚ) ≤ n + q := by positivity
  rw [roundUnits, if_pos hn, roundUnits, if_pos hq, add_assoc, Int.floor_natCast_add]

lemma roundUnits_nonpos {q : ℚ} (hq : q < 0) : roundUnits q ≤ 0 := by
  rw [roundUnits, if_neg (not_le.mpr hq)]
  exact Int.ceil_le.mpr (by push_cast; linarith)

/-- A whole bound on the exact value bounds the rounded one. -/
lemma roundUnits_le {q : ℚ} {n : ℤ} (h : q ≤ n) : roundUnits q ≤ n := by
  unfold roundUnits
  split_ifs
  · rw [← Int.lt_add_one_iff, Int.floor_lt]
    push_cast
    linarith
  · rw [Int.ceil_le]
    linarith

lemma Amount.units_cast_pos (a : Amount) : (0 : ℚ) < a.units := by exact_mod_cast a.pos

lemma Amount.toDecimal_pos (a : Amount) : 0 < a.toDecimal.units := by
  simpa using a.units_cast_pos

/-- What `store` keeps of a decimal: its rounding, in range and positive. -/
lemma Amount.store_eq_ok {d : Decimal} {a : Amount} :
    Amount.store d = .ok a ↔ (a.units : ℤ) = roundUnits d.units := by
  simp only [Amount.store]
  split_ifs with hf hp
  · simp only [Except.ok.injEq]
    constructor
    · rintro rfl
      simp only
      omega
    · intro h
      ext
      simp only
      omega
  · simp only [false_iff]
    intro h
    have := a.pos
    omega
  · simp only [false_iff]
    intro h
    have := a.fits
    omega

/-- A column read back and stored again is unchanged. -/
@[simp] lemma Amount.store_toDecimal (a : Amount) : Amount.store a.toDecimal = .ok a := by
  simp [Amount.store_eq_ok]

/-- A decimal equal to a stored amount is stored as that amount. -/
lemma Amount.store_of_units {d : Decimal} {a : Amount} (h : d.units = a.units) :
    Amount.store d = .ok a := by
  simp [Amount.store_eq_ok, h]

end AgentPay
