import AgentPay.Journals
import AgentPay.Support.Machine

/-!
# The in-memory ledger and the stored one

`InMemoryLedger.post` next to `post_journal`, call by call. The first compares a journal with the
one its id has already; the second answers a known key with the journal that is there, whatever the
postings.
-/

namespace AgentPay

open Support

/-! ### The in-memory ledger -/

/-- `ledger.Posting` -/
structure Posting where
  accountId : LedgerAccountId
  direction : Side
  amount : Decimal
  currency : String
  deriving DecidableEq, Repr

/-- What `==` compares: amounts by value. -/
def Posting.value (p : Posting) : LedgerAccountId × Side × ℚ × String :=
  (p.accountId, p.direction, p.amount.units, p.currency)

/-- `ledger.Journal` -/
structure Journal (κ : Type) where
  journalId : κ
  postings : List Posting
  deriving DecidableEq, Repr

/-- `sum` of the amounts of one direction. -/
def directionTotal (direction : Side) (postings : List Posting) : ℚ :=
  (postings.filter (·.direction = direction)).foldl
    (fun total p => context (total + p.amount.units)) 0

/-- `validate` -/
def Journal.validate {κ : Type} (journal : Journal κ) : Except Error Unit :=
  let debit := directionTotal .debit journal.postings
  let credit := directionTotal .credit journal.postings
  if journal.postings.isEmpty then .error (.valueError "journal must contain postings")
  else if (journal.postings.map (·.currency)).dedup.length ≠ 1 then
    .error (.valueError "journal must contain one currency")
  else if decide (debit ≤ 0) || decide (credit ≤ 0) || decide (debit ≠ credit) then
    .error (.valueError "journal is not balanced")
  else if journal.postings.any fun p => p.amount.units ≤ 0 then
    .error (.valueError "posting amount must be positive")
  else .ok ()

/-- `InMemoryLedger` -/
structure InMemoryLedger (κ : Type) where
  journals : List (κ × Journal κ)

/-- `Posting(…)` of the arguments of `post_journal`, `Direction(…)` raising on another side. -/
def PostingInput.posting (p : PostingInput) : Except Error Posting :=
  match Side.parse p.side with
  | .error _ => .error (.valueError ("'" ++ p.side ++ "' is not a valid Direction"))
  | .ok direction => .ok ⟨p.ledgerAccountId, direction, p.amount, p.currency⟩

/-- The journal of a call. -/
def JournalCall.journal {κ : Type} (call : JournalCall κ) : Except Error (Journal κ) := do
  let postings ← call.postings.mapM PostingInput.posting
  return ⟨call.key, postings⟩

namespace InMemoryLedger

variable {κ : Type} [DecidableEq κ]

/-- `post` -/
def post (m : InMemoryLedger κ) (journal : Journal κ) : Except Error (InMemoryLedger κ) := do
  journal.validate
  match m.journals.lookup journal.journalId with
  | some existing =>
    if existing.postings.map (·.value) ≠ journal.postings.map (·.value) then
      throw (.valueError "journal id conflict")
    else return m
  | none => return ⟨(journal.journalId, journal) :: m.journals⟩

/-- `post` of the journal of a call. -/
def postCall (m : InMemoryLedger κ) (call : JournalCall κ) : Except Error (InMemoryLedger κ) := do
  m.post (← call.journal)

end InMemoryLedger

/-! ### Values -/

/-- A total by value. -/
def valueTotal (direction : Side) (values : List (LedgerAccountId × Side × ℚ × String)) : ℚ :=
  (values.filter (·.2.1 = direction)).foldl (fun total v => context (total + v.2.2.1)) 0

/-- The values balance. -/
structure BalancedValues (values : List (LedgerAccountId × Side × ℚ × String)) : Prop where
  nonempty : values ≠ []
  debit : 0 < valueTotal .debit values
  credit : 0 < valueTotal .credit values
  equal : valueTotal .debit values = valueTotal .credit values

/-- What `validate` accepts, by value: one currency and positive amounts that balance. -/
structure ValidValues (values : List (LedgerAccountId × Side × ℚ × String)) : Prop where
  balanced : BalancedValues values
  currency : ∃ currency, ∀ v ∈ values, v.2.2.2 = currency
  positive : ∀ v ∈ values, 0 < v.2.2.1

lemma directionTotal_eq (direction : Side) (postings : List Posting) :
    directionTotal direction postings = valueTotal direction (postings.map (·.value)) := by
  rw [directionTotal, valueTotal, List.filter_map, List.foldl_map]
  rfl

/-- `len({p.currency for p in postings}) == 1` -/
lemma dedup_length_eq_one {postings : List Posting} :
    (postings.map (·.currency)).dedup.length = 1 ↔
      postings ≠ [] ∧ ∃ currency, ∀ p ∈ postings, p.currency = currency := by
  rw [List.length_eq_one_iff]
  constructor
  · rintro ⟨currency, hdedup⟩
    have hmem : ∀ c, c ∈ postings.map (·.currency) ↔ c = currency := fun c => by
      rw [← List.mem_dedup, hdedup, List.mem_singleton]
    refine ⟨?_, currency, fun p hp => (hmem _).mp (List.mem_map_of_mem hp)⟩
    rintro rfl
    simpa using (hmem currency).mpr rfl
  · rintro ⟨hne, currency, hall⟩
    obtain ⟨p, hp⟩ := List.exists_mem_of_ne_nil postings hne
    have hcurrency : ∀ c ∈ (postings.map (·.currency)).dedup, c = currency := fun c hc => by
      obtain ⟨q, hq, rfl⟩ := List.mem_map.mp (List.mem_dedup.mp hc)
      exact hall q hq
    have hreplicate := List.eq_replicate_of_mem hcurrency
    have hnodup := List.nodup_dedup (postings.map (·.currency))
    rw [hreplicate, List.nodup_replicate] at hnodup
    have hpos : 0 < (postings.map (·.currency)).dedup.length :=
      List.length_pos_of_mem (List.mem_dedup.mpr (List.mem_map_of_mem hp))
    exact ⟨currency, by rw [hreplicate, le_antisymm hnodup hpos]; rfl⟩

/-- `validate` looks at values alone. -/
lemma Journal.validate_eq_ok {κ : Type} {journal : Journal κ} :
    journal.validate = .ok () ↔ ValidValues (journal.postings.map (·.value)) := by
  have hcurrency : (∃ currency, ∀ p ∈ journal.postings, p.currency = currency) ↔
      ∃ currency, ∀ v ∈ journal.postings.map (·.value), v.2.2.2 = currency := by
    simp [Posting.value]
  have hpositive : (∀ p ∈ journal.postings, 0 < p.amount.units) ↔
      ∀ v ∈ journal.postings.map (·.value), 0 < v.2.2.1 := by
    simp [Posting.value]
  simp only [Journal.validate, List.isEmpty_iff, ne_eq, directionTotal_eq]
  constructor
  · intro h
    split_ifs at h with hempty hother hunbalanced hnonpositive
    simp only [Bool.or_eq_true, decide_eq_true_eq, not_or, not_le, not_not] at hunbalanced
    obtain ⟨⟨hdebit, hcredit⟩, hequal⟩ := hunbalanced
    simp only [List.any_eq_true, decide_eq_true_eq, not_exists, not_and, not_le] at hnonpositive
    exact ⟨⟨fun hnil => hempty (List.map_eq_nil_iff.mp hnil), hdebit, hcredit, hequal⟩,
      hcurrency.mp (dedup_length_eq_one.mp hother).2, hpositive.mp hnonpositive⟩
  · rintro ⟨⟨hempty, hdebit, hcredit, hequal⟩, hone, hpos⟩
    have hempty : journal.postings ≠ [] := fun hnil => hempty (by rw [hnil]; rfl)
    have hnonpositive : ¬ (journal.postings.any fun p => decide (p.amount.units ≤ 0)) = true := by
      simpa using hpositive.mpr hpos
    have hunbalanced : ¬ (decide (valueTotal .debit (journal.postings.map (·.value)) ≤ 0) ||
        decide (valueTotal .credit (journal.postings.map (·.value)) ≤ 0) ||
        decide (¬ valueTotal .debit (journal.postings.map (·.value)) =
          valueTotal .credit (journal.postings.map (·.value)))) = true := by
      simp [hcredit, hequal]
    have hsingle := dedup_length_eq_one.mpr ⟨hempty, hcurrency.mpr hone⟩
    rw [if_neg hempty, if_neg (not_not.mpr hsingle), if_neg hunbalanced, if_neg hnonpositive]

/-! ### Arguments and journals -/

lemma PostingInput.posting_eq_ok {p : PostingInput} {posting : Posting} :
    p.posting = .ok posting ↔ ∃ direction : Side, p.side = direction.text ∧
      posting = ⟨p.ledgerAccountId, direction, p.amount, p.currency⟩ := by
  rw [PostingInput.posting]
  cases hside : Side.parse p.side with
  | error e =>
    simp only [reduceCtorEq, false_iff]
    rintro ⟨direction, htext, -⟩
    rw [Side.parse_eq_ok.mpr htext] at hside
    cases hside
  | ok direction =>
    simp only [Except.ok.injEq]
    constructor
    · rintro rfl
      exact ⟨direction, Side.parse_eq_ok.mp hside, rfl⟩
    · rintro ⟨direction', htext, rfl⟩
      rw [Side.parse_eq_ok.mp hside, Side.text_injective] at htext
      rw [htext]

/-- A side has the same amounts among the arguments and among the values. -/
lemma contextTotal_eq {inputs : List PostingInput} {postings : List Posting}
    (h : inputs.mapM PostingInput.posting = .ok postings) (side : Side) :
    contextTotal side.text inputs = valueTotal side (postings.map (·.value)) := by
  have hamounts : (inputs.filter (·.side = side.text)).map (·.amount.units) =
      ((postings.map (·.value)).filter (·.2.1 = side)).map (·.2.2.1) := by
    induction inputs generalizing postings with
    | nil =>
      obtain rfl := Except.ok.inj h
      rfl
    | cons p inputs ih =>
      obtain ⟨posting, postings', hposting, hpostings, rfl⟩ := Except.mapM_cons_eq_ok.mp h
      obtain ⟨direction, htext, rfl⟩ := PostingInput.posting_eq_ok.mp hposting
      by_cases hside : direction = side
      · simp [htext, Posting.value, hside, ih hpostings]
      · simp [htext, Side.text_injective, Posting.value, hside, ih hpostings]
  rw [contextTotal, valueTotal, ← List.foldl_map (f := fun p : PostingInput => p.amount.units)
    (g := fun total amount => context (total + amount)), hamounts, List.foldl_map]

/-- The arguments balance when their values do. -/
lemma balances_iff {inputs : List PostingInput} {postings : List Posting}
    (h : inputs.mapM PostingInput.posting = .ok postings) :
    Balances inputs ↔ BalancedValues (postings.map (·.value)) := by
  have hempty : inputs = [] ↔ postings.map (·.value) = [] := by
    cases inputs with
    | nil =>
      obtain rfl := Except.ok.inj h
      simp
    | cons p inputs =>
      obtain ⟨posting, postings', -, -, rfl⟩ := Except.mapM_cons_eq_ok.mp h
      simp
  have hdebit : contextTotal "DEBIT" inputs = _ := contextTotal_eq h .debit
  have hcredit : contextTotal "CREDIT" inputs = _ := contextTotal_eq h .credit
  rw [Balances, hdebit, hcredit, ne_eq, hempty]
  constructor
  · rintro ⟨hne, hdebit, hcredit, hequal⟩
    exact ⟨hne, hdebit, hcredit, hequal⟩
  · rintro ⟨hne, hdebit, hcredit, hequal⟩
    exact ⟨hne, hdebit, hcredit, hequal⟩

/-- The arguments and the journal agree on the currency. -/
lemma currency_iff {inputs : List PostingInput} {postings : List Posting}
    (h : inputs.mapM PostingInput.posting = .ok postings) (currency : String) :
    (∀ p ∈ inputs, p.currency = currency) ↔
      ∀ v ∈ postings.map (·.value), v.2.2.2 = currency := by
  induction inputs generalizing postings with
  | nil =>
    obtain rfl := Except.ok.inj h
    simp
  | cons p inputs ih =>
    obtain ⟨posting, postings', hposting, hpostings, rfl⟩ := Except.mapM_cons_eq_ok.mp h
    obtain ⟨direction, -, rfl⟩ := PostingInput.posting_eq_ok.mp hposting
    rw [List.forall_mem_cons, List.map_cons, List.forall_mem_cons, ih hpostings]
    rfl

/-! ### What a row holds -/

/-- A stored row is the rounding of a posting. -/
structure Posting.StoredAs (p : Posting) (row : LedgerPosting) : Prop where
  account : row.ledgerAccountId = p.accountId
  side : row.side = p.direction
  amount : Amount.store p.amount = .ok row.amount
  currency : storeChar3 p.currency = .ok row.currency

/-- A stored journal holds the postings of one in memory. -/
structure JournalRow.Holds {κ : Type} (row : JournalRow κ) (journal : Journal κ) : Prop where
  postings : List.Forall₂ Posting.StoredAs journal.postings row.postings
  currency : ∀ p ∈ journal.postings, storeChar3 p.currency = .ok row.currency

/-- The columns and the foreign key take the arguments. -/
structure LedgerStore.Storable {κ : Type} (l : LedgerStore κ) (p : PostingInput) : Prop where
  account : p.ledgerAccountId < l.accounts
  amount : ∃ amount, Amount.store p.amount = .ok amount
  currency : ∃ currency, storeChar3 p.currency = .ok currency

/-- The arguments that can be stored are postings with a column value each. -/
lemma mapM_storeRow_iff {κ : Type} {l : LedgerStore κ} {inputs : List PostingInput}
    {rows : List LedgerPosting} :
    inputs.mapM l.storeRow = .ok rows ↔
      ∃ postings, inputs.mapM PostingInput.posting = .ok postings ∧
        List.Forall₂ Posting.StoredAs postings rows ∧
        ∀ p ∈ postings, p.accountId < l.accounts := by
  induction inputs generalizing rows with
  | nil =>
    constructor
    · intro h
      obtain rfl := Except.ok.inj h
      exact ⟨[], rfl, .nil, by simp⟩
    · rintro ⟨postings, hpostings, hrows, -⟩
      obtain rfl := Except.ok.inj hpostings
      cases hrows
      rfl
  | cons p inputs ih =>
    rw [Except.mapM_cons_eq_ok]
    constructor
    · rintro ⟨row, rows', hrow, hrows, rfl⟩
      obtain ⟨side, amount, currency, hside, hamount, hcurrency, haccount, rfl⟩ :=
        LedgerStore.storeRow_eq_ok.mp hrow
      obtain ⟨postings, hpostings, hstored, haccounts⟩ := ih.mp hrows
      refine ⟨⟨p.ledgerAccountId, side, p.amount, p.currency⟩ :: postings,
        Except.mapM_cons_eq_ok.mpr ⟨_, postings, PostingInput.posting_eq_ok.mpr
          ⟨side, Side.parse_eq_ok.mp hside, rfl⟩, hpostings, rfl⟩,
        .cons ⟨rfl, rfl, hamount, hcurrency⟩ hstored, ?_⟩
      exact List.forall_mem_cons.mpr ⟨haccount, haccounts⟩
    · rintro ⟨postings, hpostings, hstored, haccounts⟩
      obtain ⟨posting, postings', hposting, hpostings', rfl⟩ :=
        Except.mapM_cons_eq_ok.mp hpostings
      obtain ⟨side, htext, rfl⟩ := PostingInput.posting_eq_ok.mp hposting
      obtain ⟨haccount, haccounts⟩ := List.forall_mem_cons.mp haccounts
      cases hstored with
      | cons hrow hrows =>
        rename_i row rows'
        refine ⟨row, rows', LedgerStore.storeRow_eq_ok.mpr ?_,
          ih.mpr ⟨postings', hpostings', hrows, haccounts⟩, rfl⟩
        refine ⟨side, row.amount, row.currency, Side.parse_eq_ok.mpr htext, hrow.amount,
          hrow.currency, haccount, ?_⟩
        obtain ⟨account, side', amount, currency⟩ := row
        obtain ⟨haccount', hside, -, -⟩ := hrow
        obtain rfl : account = p.ledgerAccountId := haccount'
        obtain rfl : side' = side := hside
        rfl

lemma LedgerStore.storable_of_mapM {κ : Type} {l : LedgerStore κ} {inputs : List PostingInput}
    {rows : List LedgerPosting} (h : inputs.mapM l.storeRow = .ok rows) :
    ∀ p ∈ inputs, l.Storable p := by
  induction inputs generalizing rows with
  | nil => simp
  | cons p inputs ih =>
    obtain ⟨row, rows', hrow, hrows, rfl⟩ := Except.mapM_cons_eq_ok.mp h
    obtain ⟨side, amount, currency, -, hamount, hcurrency, haccount, -⟩ := storeRow_eq_ok.mp hrow
    exact List.forall_mem_cons.mpr ⟨⟨haccount, ⟨_, hamount⟩, ⟨_, hcurrency⟩⟩, ih hrows⟩

lemma LedgerStore.mapM_of_storable {κ : Type} {l : LedgerStore κ} {inputs : List PostingInput}
    {postings : List Posting} (h : inputs.mapM PostingInput.posting = .ok postings)
    (hstorable : ∀ p ∈ inputs, l.Storable p) : ∃ rows, inputs.mapM l.storeRow = .ok rows := by
  induction inputs generalizing postings with
  | nil => exact ⟨[], rfl⟩
  | cons p inputs ih =>
    obtain ⟨posting, postings', hposting, hpostings, rfl⟩ := Except.mapM_cons_eq_ok.mp h
    obtain ⟨side, htext, rfl⟩ := PostingInput.posting_eq_ok.mp hposting
    obtain ⟨⟨haccount, ⟨amount, hamount⟩, ⟨currency, hcurrency⟩⟩, hrest⟩ :=
      List.forall_mem_cons.mp hstorable
    obtain ⟨rows, hrows⟩ := ih hpostings hrest
    have hrow : l.storeRow p = .ok ⟨p.ledgerAccountId, side, amount, currency⟩ :=
      storeRow_eq_ok.mpr ⟨side, amount, currency, Side.parse_eq_ok.mpr htext, hamount, hcurrency,
        haccount, rfl⟩
    exact ⟨_, Except.mapM_cons_eq_ok.mpr ⟨_, rows, hrow, hrows, rfl⟩⟩

/-- A decimal that a column takes is positive. -/
lemma Amount.store_pos {d : Decimal} {a : Amount} (h : Amount.store d = .ok a) : 0 < d.units := by
  rw [Amount.store_eq_ok] at h
  by_contra hnot
  have hpos := a.pos
  rcases (not_lt.mp hnot).lt_or_eq with hneg | hzero
  · have := roundUnits_nonpos hneg
    omega
  · have hround : roundUnits d.units = 0 := by
      rw [hzero]
      exact_mod_cast roundUnits_intCast 0
    omega

/-- What the columns take is positive. -/
lemma LedgerStore.positive_of_storable {κ : Type} {l : LedgerStore κ} {inputs : List PostingInput}
    {postings : List Posting} (h : inputs.mapM PostingInput.posting = .ok postings)
    (hstorable : ∀ p ∈ inputs, l.Storable p) : ∀ v ∈ postings.map (·.value), 0 < v.2.2.1 := by
  induction inputs generalizing postings with
  | nil =>
    obtain rfl := Except.ok.inj h
    simp
  | cons p inputs ih =>
    obtain ⟨posting, postings', hposting, hpostings, rfl⟩ := Except.mapM_cons_eq_ok.mp h
    obtain ⟨side, -, rfl⟩ := PostingInput.posting_eq_ok.mp hposting
    obtain ⟨⟨-, ⟨amount, hamount⟩, -⟩, hrest⟩ := List.forall_mem_cons.mp hstorable
    rw [List.map_cons]
    exact List.forall_mem_cons.mpr ⟨Amount.store_pos hamount, ih hpostings hrest⟩

/-! ### One call -/

namespace InMemoryLedger

variable {κ : Type} [DecidableEq κ]

/-- What `post` accepts. -/
lemma post_eq_ok {m m' : InMemoryLedger κ} {journal : Journal κ} :
    m.post journal = .ok m' ↔ ValidValues (journal.postings.map (·.value)) ∧
      ((∃ existing, m.journals.lookup journal.journalId = some existing ∧
          existing.postings.map (·.value) = journal.postings.map (·.value) ∧ m' = m) ∨
        (m.journals.lookup journal.journalId = none ∧
          m' = ⟨(journal.journalId, journal) :: m.journals⟩)) := by
  rw [post, Except.bind_eq_ok, ← Journal.validate_eq_ok]
  constructor
  · rintro ⟨_, hvalid, h⟩
    refine ⟨hvalid, ?_⟩
    cases hlookup : m.journals.lookup journal.journalId with
    | none =>
      simp only [hlookup] at h
      exact .inr ⟨rfl, (Except.ok.inj h).symm⟩
    | some existing =>
      simp only [hlookup] at h
      split_ifs at h with hdiffers
      exact .inl ⟨existing, rfl, not_not.mp hdiffers, (Except.ok.inj h).symm⟩
  · rintro ⟨hvalid, ⟨existing, hlookup, hsame, rfl⟩ | ⟨hlookup, rfl⟩⟩
    · refine ⟨(), hvalid, ?_⟩
      simp only [hlookup]
      rw [if_neg (not_not.mpr hsame)]
      rfl
    · refine ⟨(), hvalid, ?_⟩
      simp only [hlookup]
      rfl

/-- A call that the in-memory ledger accepts: a valid journal that is new, or the one its id has. -/
lemma postCall_eq_ok {m m' : InMemoryLedger κ} {call : JournalCall κ} :
    m.postCall call = .ok m' ↔
      ∃ postings, call.postings.mapM PostingInput.posting = .ok postings ∧
        ValidValues (postings.map (·.value)) ∧
        ((∃ existing, m.journals.lookup call.key = some existing ∧
            existing.postings.map (·.value) = postings.map (·.value) ∧ m' = m) ∨
          (m.journals.lookup call.key = none ∧
            m' = ⟨(call.key, ⟨call.key, postings⟩) :: m.journals⟩)) := by
  rw [postCall, JournalCall.journal, Except.bind_eq_ok]
  constructor
  · rintro ⟨journal, hjournal, hpost⟩
    obtain ⟨postings, hpostings, h⟩ := Except.bind_eq_ok.mp hjournal
    obtain rfl := Except.ok.inj h
    exact ⟨postings, hpostings, post_eq_ok.mp hpost⟩
  · rintro ⟨postings, hpostings, hpost⟩
    exact ⟨⟨call.key, postings⟩, Except.bind_eq_ok.mpr ⟨postings, hpostings, rfl⟩,
      post_eq_ok.mpr hpost⟩

end InMemoryLedger

/-! ### The two side by side -/

/-- The stored ledger and the in-memory one. -/
structure LedgerPair (κ : Type) where
  stored : LedgerStore κ
  memory : InMemoryLedger κ

namespace LedgerPair

variable {κ : Type} [DecidableEq κ]

/-- A call on both; one that raises leaves its ledger. -/
def step (s : LedgerPair κ) (call : JournalCall κ) : LedgerPair κ :=
  ⟨((s.stored.post call).map (·.2)).toOption.getD s.stored,
    (s.memory.postCall call).toOption.getD s.memory⟩

/-- Both ledgers have the same journals: under a key both have none, or the stored one holds the
valid journal in memory. -/
def Mirrors (s : LedgerPair κ) : Prop :=
  ∀ key, (s.stored.journals.row? key = none ∧ s.memory.journals.lookup key = none) ∨
    ∃ row journal, s.stored.journals.row? key = some row ∧
      s.memory.journals.lookup key = some journal ∧ row.Holds journal ∧
      ValidValues (journal.postings.map (·.value))

/-- The call repeats a journal: the same postings. -/
def Repeats (call : JournalCall κ) (journal : Journal κ) : Prop :=
  ∃ postings, call.postings.mapM PostingInput.posting = .ok postings ∧
    postings.map (·.value) = journal.postings.map (·.value)

/-- The call makes a valid journal. -/
def Valid (call : JournalCall κ) : Prop :=
  ∃ postings, call.postings.mapM PostingInput.posting = .ok postings ∧
    ValidValues (postings.map (·.value))

/-- Both ledgers accept the call or neither does, and have the same journals afterwards; a repeat
that is accepted is answered with the journal that is there and changes nothing, and one with other
postings or another currency is refused. -/
structure Refines (s : LedgerPair κ) (call : JournalCall κ) : Prop where
  accepts : (∃ x, s.stored.post call = .ok x) ↔ ∃ m, s.memory.postCall call = .ok m
  mirrors : (s.step call).Mirrors
  repeated : ∀ id, s.stored.journals.idOf? call.key = some id →
    (∃ x, s.stored.post call = .ok x) → s.stored.post call = .ok (id, s.stored)
  conflict : ∀ journal, s.memory.journals.lookup call.key = some journal →
    ¬ Repeats call journal → ¬ ∃ x, s.stored.post call = .ok x

/-- A valid journal comes with the currency of its postings; a known key comes with the postings it
is known for, unless they do not balance in the currency of the call; and what a new journal brings
fits the columns. -/
structure Covered (s : LedgerPair κ) (call : JournalCall κ) : Prop where
  currency : Valid call → (∀ journal, s.memory.journals.lookup call.key = some journal →
    Repeats call journal) → ∀ p ∈ call.postings, p.currency = call.currency
  repeats : ∀ journal, s.memory.journals.lookup call.key = some journal →
    Balances call.postings → (∀ p ∈ call.postings, p.currency = call.currency) →
      Repeats call journal
  fits : s.memory.journals.lookup call.key = none → Valid call →
    ∀ p ∈ call.postings, s.stored.Storable p

variable {s : LedgerPair κ} {call : JournalCall κ}

/-- A known key: the stored ledger looks at balance and currency, the in-memory one at the postings
it has. -/
lemma accepts_known {id : ℕ} {journal : Journal κ}
    (hid : s.stored.journals.idOf? call.key = some id)
    (hjournal : s.memory.journals.lookup call.key = some journal)
    (hvalid : ValidValues (journal.postings.map (·.value))) :
    ((∃ x, s.stored.post call = .ok x) ↔ Balances call.postings ∧
      ∀ p ∈ call.postings, p.currency = call.currency) ∧
    ((∃ m, s.memory.postCall call = .ok m) ↔ Repeats call journal) := by
  constructor
  · constructor
    · rintro ⟨⟨id', l'⟩, hpost⟩
      obtain ⟨hbal, hcur, -⟩ := LedgerStore.post_eq_ok.mp hpost
      exact ⟨hbal, hcur⟩
    · rintro ⟨hbal, hcur⟩
      exact ⟨(id, s.stored), LedgerStore.post_eq_ok.mpr ⟨hbal, hcur, .inl ⟨hid, rfl⟩⟩⟩
  · constructor
    · rintro ⟨m, hpost⟩
      obtain ⟨postings, hpostings, -, ⟨existing, hexisting, hsame, -⟩ | ⟨hnone, -⟩⟩ :=
        InMemoryLedger.postCall_eq_ok.mp hpost
      · obtain rfl := Option.some.inj (hexisting.symm.trans hjournal)
        exact ⟨postings, hpostings, hsame.symm⟩
      · rw [hjournal] at hnone
        cases hnone
    · rintro ⟨postings, hpostings, hsame⟩
      refine ⟨s.memory, InMemoryLedger.postCall_eq_ok.mpr ⟨postings, hpostings, ?_,
        .inl ⟨journal, hjournal, hsame.symm, rfl⟩⟩⟩
      rw [hsame]
      exact hvalid

/-- A new key: the stored ledger also looks at the currency of the call and the columns. -/
lemma accepts_new (hid : s.stored.journals.idOf? call.key = none)
    (hjournal : s.memory.journals.lookup call.key = none) :
    ((∃ x, s.stored.post call = .ok x) ↔ Valid call ∧
      (∀ p ∈ call.postings, p.currency = call.currency) ∧
        ∀ p ∈ call.postings, s.stored.Storable p) ∧
    ((∃ m, s.memory.postCall call = .ok m) ↔ Valid call) := by
  constructor
  · constructor
    · rintro ⟨⟨id', l'⟩, hpost⟩
      obtain ⟨hbal, hcur, ⟨hid', -⟩ | ⟨-, -, currency, rows, journals, -, hrows, -, -⟩⟩ :=
        LedgerStore.post_eq_ok.mp hpost
      · rw [hid] at hid'
        cases hid'
      · obtain ⟨postings, hpostings, -, -⟩ := mapM_storeRow_iff.mp hrows
        have hstorable := LedgerStore.storable_of_mapM hrows
        exact ⟨⟨postings, hpostings, (balances_iff hpostings).mp hbal,
          ⟨call.currency, (currency_iff hpostings _).mp hcur⟩,
          LedgerStore.positive_of_storable hpostings hstorable⟩, hcur, hstorable⟩
    · rintro ⟨⟨postings, hpostings, hvalid⟩, hcur, hstorable⟩
      have hbal := (balances_iff hpostings).mpr hvalid.balanced
      obtain ⟨rows, hrows⟩ := LedgerStore.mapM_of_storable hpostings hstorable
      obtain ⟨p, hp⟩ := List.exists_mem_of_ne_nil call.postings hbal.1
      obtain ⟨currency, hcurrency⟩ := (hstorable p hp).currency
      rw [hcur p hp] at hcurrency
      obtain ⟨journals, hinsert, -⟩ := Table.insert?_of_idOf?_none (t := s.stored.journals)
        (r := ⟨currency, call.reference, call.key, rows⟩) (k := call.key) rfl hid
      exact ⟨_, LedgerStore.post_eq_ok.mpr ⟨hbal, hcur, .inr ⟨hid, rfl, currency, rows, journals,
        hcurrency, hrows, hinsert, rfl⟩⟩⟩
  · constructor
    · rintro ⟨m, hpost⟩
      obtain ⟨postings, hpostings, hvalid, -⟩ := InMemoryLedger.postCall_eq_ok.mp hpost
      exact ⟨postings, hpostings, hvalid⟩
    · rintro ⟨postings, hpostings, hvalid⟩
      exact ⟨_, InMemoryLedger.postCall_eq_ok.mpr ⟨postings, hpostings, hvalid,
        .inr ⟨hjournal, rfl⟩⟩⟩

/-- What both refuse changes neither. -/
lemma step_refused (hstored : ¬ ∃ x, s.stored.post call = .ok x)
    (hmemory : ¬ ∃ m, s.memory.postCall call = .ok m) : s.step call = s := by
  cases hpost : s.stored.post call with
  | ok x => exact absurd ⟨x, hpost⟩ hstored
  | error e =>
    cases hcall : s.memory.postCall call with
    | ok m => exact absurd ⟨m, hcall⟩ hmemory
    | error e' => simp [step, hpost, hcall, Except.map, Except.toOption]

lemma step_accepted {id : ℕ} {l : LedgerStore κ} {m : InMemoryLedger κ}
    (hpost : s.stored.post call = .ok (id, l)) (hcall : s.memory.postCall call = .ok m) :
    s.step call = ⟨l, m⟩ := by
  simp [step, hpost, hcall, Except.map, Except.toOption]

/-- A new journal goes into both. -/
lemma Mirrors.new (hm : s.Mirrors) {id : ℕ} {l : LedgerStore κ} {m : InMemoryLedger κ}
    (hid : s.stored.journals.idOf? call.key = none)
    (hjournal : s.memory.journals.lookup call.key = none)
    (hpost : s.stored.post call = .ok (id, l)) (hcall : s.memory.postCall call = .ok m) :
    Mirrors ⟨l, m⟩ := by
  obtain ⟨postings, hpostings, hvalid, ⟨existing, hexisting, -⟩ | ⟨-, rfl⟩⟩ :=
    InMemoryLedger.postCall_eq_ok.mp hcall
  · rw [hjournal] at hexisting
    cases hexisting
  obtain ⟨-, hcur, ⟨hid', -⟩ | ⟨-, -, currency, rows, journals, hcurrency, hrows, hinsert, rfl⟩⟩ :=
    LedgerStore.post_eq_ok.mp hpost
  · rw [hid] at hid'
    cases hid'
  obtain ⟨-, hjournals⟩ := Table.insert?_eq_some.mp hinsert
  intro key
  by_cases hkey : call.key = key
  · subst hkey
    refine .inr ⟨⟨currency, call.reference, call.key, rows⟩, ⟨call.key, postings⟩, ?_, ?_, ?_,
      hvalid⟩
    · rw [Table.row?_of_rows_append hjournals]
      exact if_pos rfl
    · simp
    · obtain ⟨postings', hpostings', hstored, -⟩ := mapM_storeRow_iff.mp hrows
      obtain rfl := Except.ok.inj (hpostings.symm.trans hpostings')
      refine ⟨hstored, fun p hp => ?_⟩
      have hsame := (currency_iff hpostings call.currency).mp hcur p.value (List.mem_map_of_mem hp)
      have hsame : p.currency = call.currency := hsame
      rw [hsame]
      exact hcurrency
  · have hrow : journals.row? key = s.stored.journals.row? key := by
      rw [Table.row?_of_rows_append hjournals, if_neg]
      exact fun h => hkey (Option.some.inj h)
    have hlookup : ((call.key, (⟨call.key, postings⟩ : Journal κ)) ::
        s.memory.journals).lookup key = s.memory.journals.lookup key := by
      rw [List.lookup_cons, beq_false_of_ne (Ne.symm hkey)]
    rw [hrow, hlookup]
    exact hm key

/-- A call on ledgers with the same journals is answered alike exactly when it is covered. -/
lemma Mirrors.refines_call_iff (hm : s.Mirrors) : s.Refines call ↔ s.Covered call := by
  rcases hm call.key with ⟨hrow, hjournal⟩ | ⟨row, journal, hrow, hjournal, -, hvalid⟩
  · -- a new key
    have hid : s.stored.journals.idOf? call.key = none := by
      cases hid : s.stored.journals.idOf? call.key with
      | none => rfl
      | some id =>
        obtain ⟨row, hrow', -⟩ := Table.row?_of_idOf? hid
        rw [hrow] at hrow'
        cases hrow'
    obtain ⟨hstored, hmemory⟩ := accepts_new hid hjournal
    constructor
    · intro h
      have haccepts := hstored.symm.trans (h.accepts.trans hmemory)
      refine ⟨fun hvalid _ => (haccepts.mpr hvalid).2.1, fun journal hjournal' => ?_,
        fun _ hvalid => (haccepts.mpr hvalid).2.2⟩
      rw [hjournal] at hjournal'
      cases hjournal'
    · intro h
      have haccepts : (∃ x, s.stored.post call = .ok x) ↔ ∃ m, s.memory.postCall call = .ok m := by
        rw [hstored, hmemory]
        refine ⟨fun h => h.1, fun hvalid => ⟨hvalid, h.currency hvalid ?_, h.fits hjournal hvalid⟩⟩
        intro journal hjournal'
        rw [hjournal] at hjournal'
        cases hjournal'
      refine ⟨haccepts, ?_, fun id hid' => ?_, fun journal hjournal' => ?_⟩
      · by_cases hposted : ∃ x, s.stored.post call = .ok x
        · obtain ⟨m, hcall⟩ := haccepts.mp hposted
          obtain ⟨⟨id, l⟩, hpost⟩ := hposted
          rw [step_accepted hpost hcall]
          exact hm.new hid hjournal hpost hcall
        · rw [step_refused hposted fun hcall => hposted (haccepts.mpr hcall)]
          exact hm
      · rw [hid] at hid'
        cases hid'
      · rw [hjournal] at hjournal'
        cases hjournal'
  · -- a known key
    obtain ⟨id, hid⟩ : ∃ id, s.stored.journals.idOf? call.key = some id := by
      cases hid : s.stored.journals.idOf? call.key with
      | some id => exact ⟨id, rfl⟩
      | none =>
        rw [Table.row?_of_idOf?_none hid] at hrow
        cases hrow
    obtain ⟨hstored, hmemory⟩ := accepts_known hid hjournal hvalid
    have hanswer : ∀ x, s.stored.post call = .ok x → s.stored.post call = .ok (id, s.stored) := by
      rintro ⟨id', l⟩ hpost
      obtain ⟨-, -, ⟨hid', rfl⟩ | ⟨hnone, -⟩⟩ := LedgerStore.post_eq_ok.mp hpost
      · obtain rfl := Option.some.inj (hid.symm.trans hid')
        exact hpost
      · rw [hid] at hnone
        cases hnone
    constructor
    · intro h
      refine ⟨fun _ hrepeats => ?_, fun journal' hjournal' hbal hcur => ?_, fun hnone => ?_⟩
      · exact (hstored.mp (h.accepts.mpr (hmemory.mpr (hrepeats journal hjournal)))).2
      · obtain rfl := Option.some.inj (hjournal.symm.trans hjournal')
        exact hmemory.mp (h.accepts.mp (hstored.mpr ⟨hbal, hcur⟩))
      · rw [hjournal] at hnone
        cases hnone
    · intro h
      have haccepts : (∃ x, s.stored.post call = .ok x) ↔ ∃ m, s.memory.postCall call = .ok m := by
        rw [hstored, hmemory]
        constructor
        · rintro ⟨hbal, hcur⟩
          exact h.repeats journal hjournal hbal hcur
        · rintro ⟨postings, hpostings, hsame⟩
          have hvalid' : ValidValues (postings.map (·.value)) := hsame ▸ hvalid
          refine ⟨(balances_iff hpostings).mpr hvalid'.balanced,
            h.currency ⟨postings, hpostings, hvalid'⟩ fun journal' hjournal' => ?_⟩
          obtain rfl := Option.some.inj (hjournal.symm.trans hjournal')
          exact ⟨postings, hpostings, hsame⟩
      refine ⟨haccepts, ?_, fun id' hid' hposted => ?_, fun journal' hjournal' hother hposted => ?_⟩
      · by_cases hposted : ∃ x, s.stored.post call = .ok x
        · obtain ⟨m, hcall⟩ := haccepts.mp hposted
          obtain ⟨x, hpost⟩ := hposted
          obtain ⟨postings, -, -, ⟨-, -, -, rfl⟩ | ⟨hnone, -⟩⟩ :=
            InMemoryLedger.postCall_eq_ok.mp hcall
          · rw [step_accepted (hanswer x hpost) hcall]
            exact hm
          · rw [hjournal] at hnone
            cases hnone
        · rw [step_refused hposted fun hcall => hposted (haccepts.mpr hcall)]
          exact hm
      · obtain rfl := Option.some.inj (hid.symm.trans hid')
        obtain ⟨x, hpost⟩ := hposted
        exact hanswer x hpost
      · obtain rfl := Option.some.inj (hjournal.symm.trans hjournal')
        exact hother (hmemory.mp (haccepts.mp hposted))

/-- Over any sequence of calls on two ledgers that start empty, `post_journal` refines
`InMemoryLedger.post` at every call exactly when every call is covered. -/
theorem refines_iff (accounts : ℕ) (calls : List (JournalCall κ)) :
    Machine.Along step Refines ⟨⟨accounts, .empty⟩, ⟨[]⟩⟩ calls ↔
      Machine.Along step Covered ⟨⟨accounts, .empty⟩, ⟨[]⟩⟩ calls := by
  have hstart : Mirrors (⟨⟨accounts, .empty⟩, ⟨[]⟩⟩ : LedgerPair κ) := fun key =>
    .inl ⟨Table.row?_eq_none.mpr (by simp), rfl⟩
  apply Machine.Along.congr (P := fun _ _ => True) (I := Mirrors) ?_ ?_ hstart
    (Machine.along_of_forall (fun _ _ => trivial) _ _)
  · intro s call _ _ h
    exact h.mirrors
  · intro s call hm _
    exact hm.refines_call_iff

/-! ### A key that comes back with another amount -/

/-- A transfer of whole units under one key. -/
def transferCall (units : ℕ) : JournalCall String where
  currency := "USD"
  reference := .payment 0
  key := "journal"
  postings := transfer 0 1 ⟨units, 0⟩ "USD"

/-- Both ledgers after a transfer of 10. -/
def afterTransfer : LedgerPair String := step ⟨⟨2, .empty⟩, ⟨[]⟩⟩ (transferCall 10)

/-- A transfer of 20 under the same key: the stored ledger answers with the journal of 10, the
in-memory ledger refuses it. -/
theorem not_refines_reused :
    (afterTransfer.stored.post (transferCall 20)).map (·.1) = .ok 0 ∧
      afterTransfer.memory.postCall (transferCall 20) =
        .error (.valueError "journal id conflict") ∧
      ¬ Machine.Along step Refines ⟨⟨2, .empty⟩, ⟨[]⟩⟩ [transferCall 10, transferCall 20] := by
  have hstored : (afterTransfer.stored.post (transferCall 20)).map (·.1) = .ok 0 := by
    decide +kernel
  have hmemory : (afterTransfer.memory.postCall (transferCall 20)).map (·.journals) =
      .error (.valueError "journal id conflict") := by
    decide +kernel
  have hmemory : afterTransfer.memory.postCall (transferCall 20) =
      .error (.valueError "journal id conflict") := by
    cases hcall : afterTransfer.memory.postCall (transferCall 20) with
    | error e =>
      rw [hcall] at hmemory
      exact congrArg Except.error (Except.error.inj hmemory)
    | ok m =>
      rw [hcall] at hmemory
      cases hmemory
  refine ⟨hstored, hmemory, ?_⟩
  rintro ⟨-, hrefines, -⟩
  have hrefines : afterTransfer.Refines (transferCall 20) := hrefines
  cases hpost : afterTransfer.stored.post (transferCall 20) with
  | error e =>
    rw [hpost] at hstored
    cases hstored
  | ok x =>
    obtain ⟨m, hcall⟩ := hrefines.accepts.mp ⟨x, hpost⟩
    rw [hmemory] at hcall
    cases hcall

end LedgerPair

end AgentPay
