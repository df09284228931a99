import AgentPay.Ledger

/-!
# Journals as they are stored

`post_journal` on the two journal tables alone, for keys of any kind: the sides are added up under
the decimal context, each row is rounded by its column, and `CHAR(3)` takes three characters. For
the journals of the payment paths it is the `postJournal` of `Ledger`.
-/

namespace AgentPay

open Support

/-! ### Columns -/

/-- A `CHAR(3)` column: shorter texts are padded, longer ones refused unless only blanks are too
many. -/
def storeChar3 (s : String) : Except Error String :=
  if fitsChar3 s then
    .ok (String.ofList (s.toList.take 3 ++ List.replicate (3 - s.length) ' '))
  else .error .dataError

/-- A text of three characters is stored as it is. -/
lemma storeChar3_of_length {s : String} (h : s.length = 3) : storeChar3 s = .ok s := by
  have hlength : s.toList.length = 3 := by rw [String.length_toList, h]
  have hdrop : s.toList.drop 3 = [] := List.drop_eq_nil_of_le hlength.le
  have htake : s.toList.take 3 = s.toList := List.take_of_length_le hlength.le
  simp [storeChar3, fitsChar3, hdrop, htake, h]

/-! ### The tables -/

/-- A row of `ledger_journals` with its rows of `ledger_postings`. -/
structure JournalRow (κ : Type) where
  currency : String
  reference : JournalReference
  idempotencyKey : κ
  postings : List LedgerPosting

/-- The stored amount of one side. -/
def rowsTotal (side : Side) (rows : List LedgerPosting) : ℕ :=
  (rows.map fun row => if row.side = side then row.amount.units else 0).sum

/-- The unique index of `ledger_journals`. -/
def JournalRow.key {κ : Type} (row : JournalRow κ) : Option κ := some row.idempotencyKey

/-- The journal tables, and how many rows `ledger_accounts` has. -/
structure LedgerStore (κ : Type) where
  accounts : ℕ
  journals : Table (JournalRow κ) JournalRow.key

/-- One call of `post_journal`. -/
structure JournalCall (κ : Type) where
  currency : String
  reference : JournalReference
  key : κ
  postings : List PostingInput

/-- `sum` of the amounts of one side: each partial sum is rounded. -/
def contextTotal (side : String) (postings : List PostingInput) : ℚ :=
  (postings.filter (·.side = side)).foldl (fun total p => context (total + p.amount.units)) 0

/-- The postings balance as `post_journal` sees it. -/
def Balances (postings : List PostingInput) : Prop :=
  postings ≠ [] ∧ 0 < contextTotal "DEBIT" postings ∧ 0 < contextTotal "CREDIT" postings ∧
    contextTotal "DEBIT" postings = contextTotal "CREDIT" postings

instance (postings : List PostingInput) : Decidable (Balances postings) :=
  inferInstanceAs (Decidable (_ ∧ _))

/-- The first check of `post_journal`. -/
lemma balances_check (postings : List PostingInput) :
    (postings.isEmpty || decide (contextTotal "DEBIT" postings ≤ 0) ||
      decide (contextTotal "CREDIT" postings ≤ 0) ||
      decide (contextTotal "DEBIT" postings ≠ contextTotal "CREDIT" postings)) = true ↔
        ¬ Balances postings := by
  simp only [Balances, Bool.or_eq_true, decide_eq_true_eq, List.isEmpty_iff, not_and_or, not_not,
    not_lt, or_assoc, ne_eq]

/-- The second. -/
lemma currency_check (postings : List PostingInput) (currency : String) :
    (postings.any fun p => decide (p.currency ≠ currency)) = true ↔
      ¬ ∀ p ∈ postings, p.currency = currency := by
  simp

namespace LedgerStore

variable {κ : Type}

/-- One row of `ledger_postings`. -/
def storeRow (l : LedgerStore κ) (p : PostingInput) : Except Error LedgerPosting := do
  let side ← Side.parse p.side
  let amount ← Amount.store p.amount
  let currency ← storeChar3 p.currency
  if p.ledgerAccountId < l.accounts then
    return { ledgerAccountId := p.ledgerAccountId, side, amount, currency }
  else throw .foreignKeyViolation

lemma storeRow_eq_ok {l : LedgerStore κ} {p : PostingInput} {row : LedgerPosting} :
    l.storeRow p = .ok row ↔
      ∃ side amount currency, Side.parse p.side = .ok side ∧ Amount.store p.amount = .ok amount ∧
        storeChar3 p.currency = .ok currency ∧ p.ledgerAccountId < l.accounts ∧
        row = ⟨p.ledgerAccountId, side, amount, currency⟩ := by
  rw [storeRow, Except.bind_eq_ok]
  constructor
  · rintro ⟨side, hside, h⟩
    obtain ⟨amount, hamount, h⟩ := Except.bind_eq_ok.mp h
    obtain ⟨currency, hcurrency, h⟩ := Except.bind_eq_ok.mp h
    split_ifs at h with haccount
    exact ⟨side, amount, currency, hside, hamount, hcurrency, haccount, (Except.ok.inj h).symm⟩
  · rintro ⟨side, amount, currency, hside, hamount, hcurrency, haccount, rfl⟩
    refine ⟨side, hside, Except.bind_eq_ok.mpr ⟨amount, hamount, Except.bind_eq_ok.mpr
      ⟨currency, hcurrency, ?_⟩⟩⟩
    rw [if_pos haccount]
    rfl

variable [DecidableEq κ]

/-- `post_journal` -/
def post (l : LedgerStore κ) (call : JournalCall κ) : Except Error (ℕ × LedgerStore κ) :=
  let debit := contextTotal "DEBIT" call.postings
  let credit := contextTotal "CREDIT" call.postings
  if call.postings.isEmpty || decide (debit ≤ 0) || decide (credit ≤ 0) ||
      decide (debit ≠ credit) then
    .error (.valueError "ledger journal must be balanced")
  else if call.postings.any fun p => p.currency ≠ call.currency then
    .error (.valueError "all postings must use the journal currency")
  else
    match l.journals.idOf? call.key with
    | some id => .ok (id, l)
    | none => do
      let currency ← storeChar3 call.currency
      let postings ← call.postings.mapM l.storeRow
      match l.journals.insert?
          { currency, reference := call.reference, idempotencyKey := call.key, postings } with
      | none => throw .uniqueViolation
      | some journals => return (l.journals.nextId, { l with journals })

/-- A call that returns: the postings balance in the journal's currency, and the journal is either
the one that the key has already, or new with its rows stored. -/
lemma post_eq_ok {l l' : LedgerStore κ} {call : JournalCall κ} {id : ℕ} :
    l.post call = .ok (id, l') ↔
      Balances call.postings ∧ (∀ p ∈ call.postings, p.currency = call.currency) ∧
      ((l.journals.idOf? call.key = some id ∧ l' = l) ∨
        (l.journals.idOf? call.key = none ∧ id = l.journals.nextId ∧
          ∃ currency postings journals, storeChar3 call.currency = .ok currency ∧
            call.postings.mapM l.storeRow = .ok postings ∧
            l.journals.insert? ⟨currency, call.reference, call.key, postings⟩ = some journals ∧
            l' = { l with journals })) := by
  simp only [post, balances_check, currency_check]
  by_cases hbal : Balances call.postings
  · by_cases hcur : ∀ p ∈ call.postings, p.currency = call.currency
    · rw [if_neg (not_not.mpr hbal), if_neg (not_not.mpr hcur)]
      rw [and_iff_right hbal, and_iff_right hcur]
      cases hid : l.journals.idOf? call.key with
      | some id' => simp [eq_comm]
      | none =>
        simp only [reduceCtorEq, false_and, true_and, false_or]
        rw [Except.bind_eq_ok]
        constructor
        · rintro ⟨currency, hstored, h⟩
          obtain ⟨postings, hpostings, h⟩ := Except.bind_eq_ok.mp h
          split at h
          · simp [throw, throwThe, MonadExceptOf.throw] at h
          · rename_i journals hinsert
            obtain ⟨rfl, rfl⟩ := by simpa [pure, Except.pure] using h
            exact ⟨rfl, currency, postings, journals, hstored, hpostings, hinsert, rfl⟩
        · rintro ⟨rfl, currency, postings, journals, hstored, hpostings, hinsert, rfl⟩
          refine ⟨currency, hstored, Except.bind_eq_ok.mpr ⟨postings, hpostings, ?_⟩⟩
          simp only [hinsert]
          rfl
    · rw [if_neg (not_not.mpr hbal), if_pos hcur]
      simp [hcur]
  · rw [if_pos hbal]
    simp [hbal]

end LedgerStore

/-! ### What the columns keep -/

/-- The text of a side. -/
def Side.text : Side → String
  | .debit  => "DEBIT"
  | .credit => "CREDIT"

lemma Side.parse_eq_ok {text : String} {side : Side} :
    Side.parse text = .ok side ↔ text = side.text := by
  unfold Side.parse
  split_ifs with hdebit hcredit
  · subst hdebit
    cases side <;> decide
  · subst hcredit
    cases side <;> decide
  · cases side <;> simp [Side.text, hdebit, hcredit]

lemma Side.text_injective {side side' : Side} : side.text = side'.text ↔ side = side' := by
  cases side <;> cases side' <;> decide

lemma Except.mapM_cons_eq_ok {ε : Type*} {α β : Type} {f : α → Except ε β} {a : α} {as : List α}
    {bs : List β} :
    (a :: as).mapM f = .ok bs ↔ ∃ b bs', f a = .ok b ∧ as.mapM f = .ok bs' ∧ bs = b :: bs' := by
  rw [List.mapM_cons, Except.bind_eq_ok]
  constructor
  · rintro ⟨b, hb, h⟩
    obtain ⟨bs', hbs, h⟩ := Except.bind_eq_ok.mp h
    exact ⟨b, bs', hb, hbs, (Except.ok.inj h).symm⟩
  · rintro ⟨b, bs', hb, hbs, rfl⟩
    exact ⟨b, hb, Except.bind_eq_ok.mpr ⟨bs', hbs, rfl⟩⟩

/-- What the columns' rounding takes from the amounts of one side. -/
def columnLoss (side : String) (postings : List PostingInput) : ℚ :=
  (postings.map fun p =>
    if p.side = side then p.amount.units - (roundUnits p.amount.units : ℚ) else 0).sum

/-- What the rounding of the partial sums takes from the total of one side. -/
def contextLoss (side : String) (postings : List PostingInput) : ℚ :=
  sideTotal side postings - contextTotal side postings

/-- The stored rows of a side make up its total less what the columns take. -/
lemma rowsTotal_eq {κ : Type} {l : LedgerStore κ} {postings : List PostingInput}
    {rows : List LedgerPosting} (h : postings.mapM l.storeRow = .ok rows) (side : Side) :
    (rowsTotal side rows : ℚ) = sideTotal side.text postings - columnLoss side.text postings := by
  induction postings generalizing rows with
  | nil =>
    obtain rfl := Except.ok.inj h
    simp [rowsTotal, sideTotal, columnLoss]
  | cons p postings ih =>
    obtain ⟨row, rows', hrow, hrows, rfl⟩ := Except.mapM_cons_eq_ok.mp h
    obtain ⟨side', amount, currency, hside, hamount, -, -, rfl⟩ :=
      LedgerStore.storeRow_eq_ok.mp hrow
    rw [Side.parse_eq_ok] at hside
    rw [Amount.store_eq_ok] at hamount
    have hamount : (amount.units : ℚ) = roundUnits p.amount.units := by exact_mod_cast hamount
    have ih := ih hrows
    simp only [rowsTotal, sideTotal, columnLoss, List.map_cons, List.sum_cons, hside,
      Side.text_injective] at ih ⊢
    by_cases hsame : side' = side
    · simp only [hsame, if_true]
      rw [Nat.cast_add, ih, hamount]
      ring
    · simp only [hsame, if_false, zero_add]
      exact ih

namespace LedgerStore

variable {κ : Type}

/-- The rows of a new journal are in its currency. -/
lemma mapM_currency {l : LedgerStore κ} {postings : List PostingInput} {rows : List LedgerPosting}
    {text currency : String} (h : postings.mapM l.storeRow = .ok rows)
    (hcurrency : ∀ p ∈ postings, p.currency = text) (hstored : storeChar3 text = .ok currency) :
    ∀ row ∈ rows, row.currency = currency := by
  induction postings generalizing rows with
  | nil =>
    obtain rfl := Except.ok.inj h
    simp
  | cons p postings ih =>
    obtain ⟨row, rows', hrow, hrows, rfl⟩ := Except.mapM_cons_eq_ok.mp h
    obtain ⟨side, amount, currency', -, -, hcurrency', -, rfl⟩ := storeRow_eq_ok.mp hrow
    rw [hcurrency p (List.mem_cons_self ..), hstored] at hcurrency'
    obtain rfl := Except.ok.inj hcurrency'
    intro row hrow
    rcases List.mem_cons.mp hrow with rfl | hrow
    · rfl
    · exact ih hrows (fun p hp => hcurrency p (List.mem_cons_of_mem _ hp)) row hrow

variable [DecidableEq κ]

/-- The journal under an id is balanced, and its rows are in its currency. -/
def JournalBalanced (l : LedgerStore κ) (id : ℕ) : Prop :=
  ∃ journal, l.journals.get? id = some journal ∧
    rowsTotal .debit journal.postings = rowsTotal .credit journal.postings ∧
    ∀ row ∈ journal.postings, row.currency = journal.currency

/-- A new journal is balanced when its sides are equal after the columns have taken their share. -/
lemma journalBalanced_sides {l l' : LedgerStore κ} {call : JournalCall κ} {id : ℕ}
    (hpost : l.post call = .ok (id, l')) (hnew : l.journals.idOf? call.key = none) :
    contextTotal "DEBIT" call.postings = contextTotal "CREDIT" call.postings ∧
      (∃ rows, call.postings.mapM l.storeRow = .ok rows) ∧
      (l'.JournalBalanced id ↔
        sideTotal "DEBIT" call.postings - columnLoss "DEBIT" call.postings =
          sideTotal "CREDIT" call.postings - columnLoss "CREDIT" call.postings) := by
  obtain ⟨⟨-, -, -, hequal⟩, hcurrency, ⟨hid, -⟩ | ⟨-, rfl, currency, postings, journals, hstored,
    hpostings, hinsert, rfl⟩⟩ := post_eq_ok.mp hpost
  · rw [hnew] at hid
    cases hid
  refine ⟨hequal, ⟨postings, hpostings⟩, ?_⟩
  obtain ⟨-, hrows⟩ := Table.insert?_eq_some.mp hinsert
  have hget : journals.get? l.journals.nextId =
      some ⟨currency, call.reference, call.key, postings⟩ := by
    rw [Table.get?_of_rows_append hrows, if_pos rfl]
  have hsame := mapM_currency hpostings hcurrency hstored
  have hdebit : (rowsTotal .debit postings : ℚ) =
      sideTotal "DEBIT" call.postings - columnLoss "DEBIT" call.postings :=
    rowsTotal_eq hpostings .debit
  have hcredit : (rowsTotal .credit postings : ℚ) =
      sideTotal "CREDIT" call.postings - columnLoss "CREDIT" call.postings :=
    rowsTotal_eq hpostings .credit
  rw [← hdebit, ← hcredit, Nat.cast_inj]
  constructor
  · rintro ⟨journal, hjournal, hbalance, -⟩
    obtain rfl := Option.some.inj (hget.symm.trans hjournal)
    exact hbalance
  · intro hbalance
    exact ⟨_, hget, hbalance, hsame⟩

/-- A new journal is stored balanced and in one currency exactly when rounding takes as much from
its debits as from its credits, what the partial sums have dropped left out. -/
theorem journalBalanced_iff {l l' : LedgerStore κ} {call : JournalCall κ} {id : ℕ}
    (hpost : l.post call = .ok (id, l')) (hnew : l.journals.idOf? call.key = none) :
    l'.JournalBalanced id ↔
      columnLoss "DEBIT" call.postings - contextLoss "DEBIT" call.postings =
        columnLoss "CREDIT" call.postings - contextLoss "CREDIT" call.postings := by
  obtain ⟨hequal, -, hsides⟩ := journalBalanced_sides hpost hnew
  rw [hsides, contextLoss, contextLoss, hequal]
  constructor <;> intro h <;> linarith

end LedgerStore

/-! ### Amounts in whole ten-thousandths -/

/-- The decimal context adds up whole amounts exactly, as long as there are not too many. -/
lemma foldl_context {postings : List PostingInput} {total : ℕ}
    (hwhole : ∀ p ∈ postings, ∃ n : ℕ, n < numericLimit ∧ p.amount.units = n)
    (hfits : total + postings.length * numericLimit ≤ 10 ^ 28) :
    postings.foldl (fun total p => context (total + p.amount.units)) (total : ℚ) =
      total + (postings.map (·.amount.units)).sum := by
  induction postings generalizing total with
  | nil => simp
  | cons p postings ih =>
    obtain ⟨n, hn, hamount⟩ := hwhole p (List.mem_cons_self ..)
    rw [List.length_cons] at hfits
    have hsum : total + n < 10 ^ 28 := by
      have hlimit : numericLimit ≤ (postings.length + 1) * numericLimit :=
        Nat.le_mul_of_pos_left _ (by omega)
      omega
    have hcontext : context (total + p.amount.units) = ((total + n : ℕ) : ℚ) := by
      have hround := Support.roundDigits_intCast (n := 28) (c := (total + n : ℕ))
        (by rw [Nat.abs_cast]; exact_mod_cast hsum)
      rw [context, hamount]
      exact_mod_cast hround
    rw [List.foldl_cons, hcontext, ih (fun p hp => hwhole p (List.mem_cons_of_mem _ hp)) ?_]
    · rw [List.map_cons, List.sum_cons, hamount]
      push_cast
      ring
    · have hdistrib : (postings.length + 1) * numericLimit =
          postings.length * numericLimit + numericLimit := by ring
      omega

lemma sideTotal_eq_filter (side : String) (postings : List PostingInput) :
    sideTotal side postings = ((postings.filter (·.side = side)).map (·.amount.units)).sum := by
  rw [sideTotal]
  induction postings with
  | nil => rfl
  | cons p postings ih =>
    by_cases hside : p.side = side
    · simp [hside, ih]
    · simp [hside, ih]

/-- Up to a hundred million whole amounts lose nothing. -/
lemma loss_of_whole {postings : List PostingInput} (side : String)
    (hwhole : ∀ p ∈ postings, ∃ n : ℕ, n < numericLimit ∧ p.amount.units = n)
    (hlength : postings.length ≤ 10 ^ 8) :
    columnLoss side postings = 0 ∧ contextLoss side postings = 0 := by
  constructor
  · rw [columnLoss]
    apply List.sum_eq_zero
    intro x hx
    obtain ⟨p, hp, rfl⟩ := List.mem_map.mp hx
    obtain ⟨n, -, hamount⟩ := hwhole p hp
    split_ifs
    · rw [hamount, roundUnits_natCast]
      simp
    · rfl
  · have hfits : 0 + (postings.filter (·.side = side)).length * numericLimit ≤ 10 ^ 28 := by
      have hle := List.length_filter_le (fun p : PostingInput => decide (p.side = side)) postings
      rw [zero_add, numericLimit]
      calc _ ≤ 10 ^ 8 * 10 ^ 20 := Nat.mul_le_mul_right _ (hle.trans hlength)
        _ = 10 ^ 28 := by norm_num
    have hsum : (postings.filter (·.side = side)).foldl
        (fun total p => context (total + p.amount.units)) ((0 : ℕ) : ℚ) = _ :=
      foldl_context (fun p hp => hwhole p (List.mem_filter.mp hp).1) hfits
    rw [Nat.cast_zero, zero_add] at hsum
    rw [contextLoss, contextTotal, sideTotal_eq_filter, hsum, sub_self]

namespace LedgerStore

variable {κ : Type}

/-- An amount whose row is stored fits its column. -/
lemma mapM_fits {l : LedgerStore κ} {postings : List PostingInput} {rows : List LedgerPosting}
    (h : postings.mapM l.storeRow = .ok rows) :
    ∀ p ∈ postings, roundUnits p.amount.units < numericLimit := by
  induction postings generalizing rows with
  | nil => simp
  | cons p postings ih =>
    obtain ⟨row, rows', hrow, hrows, rfl⟩ := Except.mapM_cons_eq_ok.mp h
    obtain ⟨side, amount, currency, -, hamount, -, -, rfl⟩ := storeRow_eq_ok.mp hrow
    rw [Amount.store_eq_ok] at hamount
    intro q hq
    rcases List.mem_cons.mp hq with rfl | hq
    · rw [← hamount]
      exact_mod_cast amount.fits
    · exact ih hrows q hq

variable [DecidableEq κ]

/-- So up to a hundred million amounts in whole ten-thousandths are stored balanced. -/
theorem journalBalanced_of_whole {l l' : LedgerStore κ} {call : JournalCall κ} {id : ℕ}
    (hpost : l.post call = .ok (id, l')) (hnew : l.journals.idOf? call.key = none)
    (hwhole : ∀ p ∈ call.postings, ∃ n : ℕ, p.amount.units = n)
    (hlength : call.postings.length ≤ 10 ^ 8) : l'.JournalBalanced id := by
  obtain ⟨hequal, ⟨rows, hrows⟩, hsides⟩ := journalBalanced_sides hpost hnew
  have hfits : ∀ p ∈ call.postings, ∃ n : ℕ, n < numericLimit ∧ p.amount.units = n := by
    intro p hp
    obtain ⟨n, hn⟩ := hwhole p hp
    have hlimit := mapM_fits hrows p hp
    rw [hn, roundUnits_natCast] at hlimit
    exact ⟨n, by exact_mod_cast hlimit, hn⟩
  obtain ⟨hdebit, hdebitTotal⟩ := loss_of_whole "DEBIT" hfits hlength
  obtain ⟨hcredit, hcreditTotal⟩ := loss_of_whole "CREDIT" hfits hlength
  rw [contextLoss, sub_eq_zero] at hdebitTotal hcreditTotal
  rw [hsides, hdebit, hcredit, hdebitTotal, hcreditTotal, hequal]

/-- And so is one amount that is debited and credited. -/
theorem journalBalanced_of_pair {l l' : LedgerStore κ} {call : JournalCall κ} {id : ℕ}
    (hpost : l.post call = .ok (id, l')) (hnew : l.journals.idOf? call.key = none)
    {debited credited : ℕ} {amount : Decimal} {currency : String}
    (hpair : call.postings =
      [⟨debited, "DEBIT", amount, currency⟩, ⟨credited, "CREDIT", amount, currency⟩]) :
    l'.JournalBalanced id := by
  obtain ⟨-, -, hsides⟩ := journalBalanced_sides hpost hnew
  rw [hsides, hpair]
  simp [sideTotal, columnLoss]

end LedgerStore

/-! ### The journals of the payment paths -/

/-- With three-letter currencies both models store the same rows. -/
lemma mapM_storePosting {κ : Type} {db : Db} {l : LedgerStore κ}
    (haccounts : l.accounts = db.ledgerAccounts.length) {postings : List PostingInput}
    (hiso : ∀ p ∈ postings, p.currency.length = 3) :
    postings.mapM (storePosting db) = postings.mapM l.storeRow := by
  induction postings with
  | nil => rfl
  | cons p postings ih =>
    have hrow : storePosting db p = l.storeRow p := by
      simp only [storePosting, LedgerStore.storeRow, haccounts,
        storeChar3_of_length (hiso p (List.mem_cons_self ..))]
      rfl
    rw [List.mapM_cons, List.mapM_cons, hrow,
      ih fun p hp => hiso p (List.mem_cons_of_mem _ hp)]

/-- The journal that `postJournal` adds under a new key. -/
lemma postJournal_new_iff {db : Db} {currency : String} {reference : JournalReference}
    {key : JournalKey} {postings : List PostingInput} {rows : List LedgerPosting}
    (hnew : db.ledgerJournals.idOf? key = none)
    (hdebit : contextLoss "DEBIT" postings = 0) (hcredit : contextLoss "CREDIT" postings = 0) :
    (∃ id db', postJournal db currency reference key postings = .ok (id, db') ∧
      db'.ledgerJournals.get? id = some ⟨currency, reference, key, rows⟩) ↔
    Balances postings ∧ (∀ p ∈ postings, p.currency = currency) ∧
      postings.mapM (storePosting db) = .ok rows := by
  rw [contextLoss, sub_eq_zero] at hdebit hcredit
  simp only [postJournal, hdebit, hcredit, balances_check, currency_check, hnew]
  by_cases hbal : Balances postings
  · by_cases hcur : ∀ p ∈ postings, p.currency = currency
    · rw [if_neg (not_not.mpr hbal), if_neg (not_not.mpr hcur), and_iff_right hbal,
        and_iff_right hcur]
      constructor
      · rintro ⟨id, db', h, hget⟩
        obtain ⟨rows', hrows, h⟩ := Except.bind_eq_ok.mp h
        split at h
        · simp [throw, throwThe, MonadExceptOf.throw] at h
        · rename_i journals hinsert
          obtain ⟨rfl, rfl⟩ := by simpa [pure, Except.pure] using h
          obtain ⟨-, hjournals⟩ := Table.insert?_eq_some.mp hinsert
          rw [Table.get?_of_rows_append hjournals, if_pos rfl] at hget
          obtain ⟨-, -, -, rfl⟩ := LedgerJournal.mk.inj (Option.some.inj hget)
          exact hrows
      · intro hrows
        obtain ⟨journals, hinsert, hjournals⟩ := Table.insert?_of_idOf?_none
          (t := db.ledgerJournals) (r := ⟨currency, reference, key, rows⟩) (k := key) rfl hnew
        refine ⟨db.ledgerJournals.nextId, { db with ledgerJournals := journals },
          Except.bind_eq_ok.mpr ⟨rows, hrows, ?_⟩, ?_⟩
        · simp only [hinsert]
          rfl
        · rw [Table.get?_of_rows_append hjournals, if_pos rfl]
    · rw [if_neg (not_not.mpr hbal), if_pos hcur]
      simp [hcur]
  · rw [if_pos hbal]
    simp [hbal]

/-- The journal that `post` adds under a new key. -/
lemma LedgerStore.post_new_iff {κ : Type} [DecidableEq κ] {l : LedgerStore κ} {call : JournalCall κ}
    {currency : String} {rows : List LedgerPosting} (hnew : l.journals.idOf? call.key = none)
    (hstored : storeChar3 call.currency = .ok currency) :
    (∃ id l', l.post call = .ok (id, l') ∧
      l'.journals.get? id = some ⟨currency, call.reference, call.key, rows⟩) ↔
    Balances call.postings ∧ (∀ p ∈ call.postings, p.currency = call.currency) ∧
      call.postings.mapM l.storeRow = .ok rows := by
  constructor
  · rintro ⟨id, l', hpost, hget⟩
    obtain ⟨hbal, hcur, ⟨hid, -⟩ | ⟨-, rfl, currency', rows', journals, -, hrows, hinsert, rfl⟩⟩ :=
      post_eq_ok.mp hpost
    · rw [hnew] at hid
      cases hid
    · obtain ⟨-, hjournals⟩ := Table.insert?_eq_some.mp hinsert
      rw [Table.get?_of_rows_append hjournals, if_pos rfl] at hget
      obtain ⟨-, -, -, rfl⟩ := JournalRow.mk.inj (Option.some.inj hget)
      exact ⟨hbal, hcur, hrows⟩
  · rintro ⟨hbal, hcur, hrows⟩
    obtain ⟨journals, hinsert, hjournals⟩ := Table.insert?_of_idOf?_none
      (t := l.journals) (r := ⟨currency, call.reference, call.key, rows⟩) (k := call.key) rfl hnew
    refine ⟨l.journals.nextId, { l with journals }, post_eq_ok.mpr ⟨hbal, hcur, .inr ⟨hnew, rfl,
      currency, rows, journals, hstored, hrows, hinsert, rfl⟩⟩, ?_⟩
    rw [Table.get?_of_rows_append hjournals, if_pos rfl]

/-- On the journals of the payment paths, with totals that 28 digits hold and a three-letter
currency, `postJournal` stores what `post` stores. -/
theorem postJournal_iff_post {κ : Type} [DecidableEq κ] {db : Db} {l : LedgerStore κ}
    {call : JournalCall κ} {key : JournalKey} {rows : List LedgerPosting}
    (haccounts : l.accounts = db.ledgerAccounts.length) (hiso : call.currency.length = 3)
    (hdebit : contextLoss "DEBIT" call.postings = 0)
    (hcredit : contextLoss "CREDIT" call.postings = 0)
    (hfree : db.ledgerJournals.idOf? key = none) (hnew : l.journals.idOf? call.key = none) :
    (∃ id db', postJournal db call.currency call.reference key call.postings = .ok (id, db') ∧
      db'.ledgerJournals.get? id = some ⟨call.currency, call.reference, key, rows⟩) ↔
    ∃ id l', l.post call = .ok (id, l') ∧
      l'.journals.get? id = some ⟨call.currency, call.reference, call.key, rows⟩ := by
  rw [postJournal_new_iff hfree hdebit hcredit,
    LedgerStore.post_new_iff hnew (storeChar3_of_length hiso)]
  apply and_congr_right
  intro _
  apply and_congr_right
  intro hcur
  rw [mapM_storePosting haccounts fun p hp => by rw [hcur p hp, hiso]]

/-! ### Two debits that are rounded up -/

namespace LedgerStore

/-- No journals yet, and two accounts. -/
def sample : LedgerStore String := ⟨2, .empty⟩

/-- 1.00005 is debited twice and 2.0001 credited. -/
def roundedCall : JournalCall String where
  currency := "USD"
  reference := .payment 0
  key := "journal"
  postings := [⟨0, "DEBIT", ⟨100005, 5⟩, "USD"⟩, ⟨0, "DEBIT", ⟨100005, 5⟩, "USD"⟩,
    ⟨1, "CREDIT", ⟨20001, 4⟩, "USD"⟩]

/-- 1.00005 is debited and credited. -/
def pairedCall : JournalCall String :=
  { roundedCall with
    postings := [⟨0, "DEBIT", ⟨100005, 5⟩, "USD"⟩, ⟨1, "CREDIT", ⟨100005, 5⟩, "USD"⟩] }

/-- One amount on both sides is rounded alike. -/
theorem journalBalanced_iff_paired :
    ∃ l' id, sample.post pairedCall = .ok (id, l') ∧ l'.JournalBalanced id := by
  have hstored : (sample.post pairedCall).isOk = true := by decide +kernel
  cases hpost : sample.post pairedCall with
  | error e =>
    rw [hpost] at hstored
    cases hstored
  | ok answer =>
    obtain ⟨id, l'⟩ := answer
    exact ⟨l', id, rfl, (journalBalanced_iff hpost (by decide)).mpr (by decide +kernel)⟩

/-- The journal is accepted, with debits of 2.0002 and a credit of 2.0001. -/
theorem not_journalBalanced_rounded :
    ∃ l' id, sample.post roundedCall = .ok (id, l') ∧ ¬ l'.JournalBalanced id := by
  have hstored : (sample.post roundedCall).map (fun answer =>
      (answer.2.journals.get? answer.1).map fun journal =>
        (rowsTotal .debit journal.postings, rowsTotal .credit journal.postings)) =
      .ok (some (20002, 20001)) := by
    decide +kernel
  cases hpost : sample.post roundedCall with
  | error e =>
    rw [hpost] at hstored
    cases hstored
  | ok answer =>
    obtain ⟨id, l'⟩ := answer
    refine ⟨l', id, rfl, ?_⟩
    rintro ⟨journal, hjournal, hbalance, -⟩
    rw [hpost] at hstored
    have htotals : (l'.journals.get? id).map (fun journal =>
        (rowsTotal .debit journal.postings, rowsTotal .credit journal.postings)) =
        some (20002, 20001) :=
      Except.ok.inj hstored
    rw [hjournal, Option.map_some, hbalance] at htotals
    obtain ⟨hdebit, hcredit⟩ := Prod.mk.inj (Option.some.inj htotals)
    omega

end LedgerStore

end AgentPay
