import Mathlib.Data.List.Basic
import Mathlib.Tactic.Ring

/-!
# Quoted text in ASCII

Text between quotation marks as JSON libraries write it when they keep to ASCII: two characters for
what has a short escape, `\uXXXX` with lowercase digits for the rest of the basic plane, and two of
these, a surrogate pair, for what lies beyond it. `readChar` reads one character back, so a quoted
text is told apart from any other whatever follows it.
-/

namespace Support

/-! ### Decimal digits -/

lemma ofDigitChars_toString (n : ℕ) : Nat.ofDigitChars 10 (toString n).toList 0 = n := by
  rw [Nat.toString_eq_repr, Nat.toList_repr, Nat.ofDigitChars_ten_toDigits]

lemma toString_injective : Function.Injective fun n : ℕ => toString n := by
  intro m n h
  have h : toString m = toString n := h
  rw [← ofDigitChars_toString m, h, ofDigitChars_toString]

/-! ### Hexadecimal digits -/

/-- The last `width` hexadecimal digits of a number, in lowercase. -/
def hexDigits : ℕ → ℕ → List Char
  | 0,         _ => []
  | width + 1, n => hexDigits width (n / 16) ++ [Nat.digitChar (n % 16)]

/-- The value of a lowercase hexadecimal digit. -/
def hexValue (c : Char) : ℕ := if c.isDigit then c.toNat - 48 else c.toNat - 87

/-- The number that hexadecimal digits spell. -/
def ofHexDigits (digits : List Char) : ℕ := digits.foldl (fun n c => n * 16 + hexValue c) 0

@[simp] lemma length_hexDigits (width n : ℕ) : (hexDigits width n).length = width := by
  induction width generalizing n with
  | zero          => rfl
  | succ width ih => simp [hexDigits, ih]

lemma mem_hexDigits {width n : ℕ} {c : Char} (h : c ∈ hexDigits width n) :
    ∃ d : Fin 16, c = Nat.digitChar d := by
  induction width generalizing n with
  | zero          => simp [hexDigits] at h
  | succ width ih =>
    rw [hexDigits, List.mem_append, List.mem_singleton] at h
    obtain hinit | hlast := h
    · exact ih hinit
    · exact ⟨⟨n % 16, Nat.mod_lt n (by omega)⟩, hlast⟩

lemma hexValue_digitChar (n : ℕ) : hexValue (Nat.digitChar (n % 16)) = n % 16 := by
  have hall : ∀ d : Fin 16, hexValue (Nat.digitChar d) = d := by decide
  exact hall ⟨n % 16, Nat.mod_lt n (by omega)⟩

lemma ofHexDigits_hexDigits {width n : ℕ} (h : n < 16 ^ width) :
    ofHexDigits (hexDigits width n) = n := by
  induction width generalizing n with
  | zero          => simp_all [hexDigits, ofHexDigits]
  | succ width ih =>
    have hinit : n / 16 < 16 ^ width := by
      rw [Nat.div_lt_iff_lt_mul (by omega), ← pow_succ]
      exact h
    have hsplit : ofHexDigits (hexDigits (width + 1) n) =
        ofHexDigits (hexDigits width (n / 16)) * 16 + hexValue (Nat.digitChar (n % 16)) := by
      rw [hexDigits, ofHexDigits, List.foldl_append]
      rfl
    rw [hsplit, ih hinit, hexValue_digitChar]
    omega

/-! ### Characters -/

/-- The character after the backslash of a short escape. -/
def shortEscape : Char → Option Char
  | '"'    => some '"'
  | '\\'   => some '\\'
  | '\n'   => some 'n'
  | '\r'   => some 'r'
  | '\t'   => some 't'
  | '\x0c' => some 'f'
  | '\x08' => some 'b'
  | _      => none

/-- `\uXXXX` -/
def unitEscape (unit : ℕ) : List Char := '\\' :: 'u' :: hexDigits 4 unit

/-- A character inside a quoted text. -/
def escapeChar (c : Char) : List Char :=
  match shortEscape c with
  | some x => ['\\', x]
  | none   =>
    if 32 ≤ c.toNat ∧ c.toNat ≤ 126 then [c]
    else if c.toNat < 0x10000 then unitEscape c.toNat
    else
      unitEscape (0xd800 + (c.toNat - 0x10000) / 0x400) ++
        unitEscape (0xdc00 + (c.toNat - 0x10000) % 0x400)

/-- What a short escape stands for. -/
def ofShortEscape : Char → Char
  | 'n' => '\n'
  | 'r' => '\r'
  | 't' => '\t'
  | 'f' => '\x0c'
  | 'b' => '\x08'
  | c   => c

/-- The four digits of a `\uXXXX`, with what follows them. -/
def readUnit : List Char → Option (ℕ × List Char)
  | '\\' :: 'u' :: a :: b :: c :: d :: rest => some (ofHexDigits [a, b, c, d], rest)
  | _                                       => none

/-- One character of a quoted text, with what follows it. -/
def readChar (input : List Char) : Option (Char × List Char) :=
  match readUnit input with
  | some (unit, rest) =>
    if 0xd800 ≤ unit ∧ unit < 0xdc00 then
      (readUnit rest).map fun (low, rest) =>
        (Char.ofNat (0x10000 + (unit - 0xd800) * 0x400 + (low - 0xdc00)), rest)
    else some (Char.ofNat unit, rest)
  | none =>
    match input with
    | '\\' :: c :: rest => some (ofShortEscape c, rest)
    | c :: rest         => some (c, rest)
    | []                => none

lemma readUnit_unitEscape {unit : ℕ} (h : unit < 0x10000) (rest : List Char) :
    readUnit (unitEscape unit ++ rest) = some (unit, rest) := by
  have hdigits := length_hexDigits 4 unit
  match hfour : hexDigits 4 unit, hdigits with
  | [a, b, c, d], _ =>
    have hvalue : ofHexDigits [a, b, c, d] = unit := hfour ▸ ofHexDigits_hexDigits h
    simp [unitEscape, hfour, readUnit, hvalue]

lemma shortEscape_some {c x : Char} (h : shortEscape c = some x) :
    x ≠ 'u' ∧ ofShortEscape x = c := by
  unfold shortEscape at h
  split at h <;> cases h <;> decide

/-- A character without a short escape is neither a quotation mark nor a backslash. -/
lemma shortEscape_none {c : Char} (h : shortEscape c = none) : c ≠ '"' ∧ c ≠ '\\' := by
  constructor
  · rintro rfl
    cases h
  · rintro rfl
    cases h

lemma toNat_cases (c : Char) :
    c.toNat < 0xd800 ∨ 0xdfff < c.toNat ∧ c.toNat < 0x110000 := by
  obtain ⟨value, hvalid | hvalid⟩ := c
  · exact .inl hvalid
  · exact .inr hvalid

/-- An escaped character is read back, whatever follows it. -/
lemma readChar_escapeChar (c : Char) (rest : List Char) :
    readChar (escapeChar c ++ rest) = some (c, rest) := by
  have hrange := toNat_cases c
  unfold escapeChar
  split
  case h_1 x hshort =>
    obtain ⟨hx, hback⟩ := shortEscape_some hshort
    simp [readChar, readUnit, hx, hback]
  case h_2 hshort =>
    obtain ⟨-, hslash⟩ := shortEscape_none hshort
    split_ifs with hplain hbasic
    · simp [readChar, readUnit, hslash]
    · have hunit : ¬ (0xd800 ≤ c.toNat ∧ c.toNat < 0xdc00) := by omega
      unfold readChar
      rw [readUnit_unitEscape hbasic]
      simp only [hunit, if_false, Char.ofNat_toNat]
    · -- the two surrogates carry the upper and the lower ten bits of what exceeds the basic plane
      have hpair : 0x10000 + (0xd800 + (c.toNat - 0x10000) / 0x400 - 0xd800) * 0x400 +
          (0xdc00 + (c.toNat - 0x10000) % 0x400 - 0xdc00) = c.toNat := by omega
      have hhigh : 0xd800 ≤ 0xd800 + (c.toNat - 0x10000) / 0x400 ∧
          0xd800 + (c.toNat - 0x10000) / 0x400 < 0xdc00 := by omega
      unfold readChar
      rw [List.append_assoc, readUnit_unitEscape (by omega)]
      simp only [hhigh, and_self, if_true]
      rw [readUnit_unitEscape (by omega), Option.map_some, hpair, Char.ofNat_toNat]

/-- No escaped character starts with a quotation mark. -/
lemma escapeChar_eq_cons (c : Char) : ∃ x rest, escapeChar c = x :: rest ∧ x ≠ '"' := by
  unfold escapeChar
  split
  case h_1 x hshort => exact ⟨'\\', [x], rfl, by decide⟩
  case h_2 hshort =>
    split_ifs
    · exact ⟨c, [], rfl, (shortEscape_none hshort).1⟩
    · exact ⟨'\\', _, rfl, by decide⟩
    · exact ⟨'\\', _, rfl, by decide⟩

/-! ### Texts -/

/-- A text between quotation marks. -/
def quote (s : String) : List Char := '"' :: s.toList.flatMap escapeChar ++ ['"']

/-- Escaped characters up to a quotation mark are told apart. -/
lemma escaped_append_inj {cs ds r s : List Char}
    (h : cs.flatMap escapeChar ++ '"' :: r = ds.flatMap escapeChar ++ '"' :: s) :
    cs = ds ∧ r = s := by
  induction cs generalizing ds with
  | nil =>
    cases ds with
    | nil       => simpa using h
    | cons d ds =>
      obtain ⟨x, rest, hd, hx⟩ := escapeChar_eq_cons d
      simp only [List.flatMap_nil, List.flatMap_cons, hd, List.nil_append, List.cons_append,
        List.cons.injEq] at h
      exact absurd h.1.symm hx
  | cons c cs ih =>
    cases ds with
    | nil       =>
      obtain ⟨x, rest, hc, hx⟩ := escapeChar_eq_cons c
      simp only [List.flatMap_nil, List.flatMap_cons, hc, List.nil_append, List.cons_append,
        List.cons.injEq] at h
      exact absurd h.1 hx
    | cons d ds =>
      have hread := congrArg readChar h
      rw [List.flatMap_cons, List.flatMap_cons, List.append_assoc, List.append_assoc,
        readChar_escapeChar, readChar_escapeChar, Option.some.injEq, Prod.mk.injEq] at hread
      obtain ⟨rfl, hrest⟩ := hread
      obtain ⟨rfl, rfl⟩ := ih hrest
      exact ⟨rfl, rfl⟩

/-- Quoted texts are told apart, whatever follows them. -/
theorem quote_append_inj {a b : String} {r s : List Char} (h : quote a ++ r = quote b ++ s) :
    a = b ∧ r = s := by
  simp only [quote, List.cons_append, List.append_assoc, List.nil_append, List.cons.injEq,
    true_and] at h
  obtain ⟨hlist, hrest⟩ := escaped_append_inj h
  exact ⟨String.toList_injective hlist, hrest⟩

example : quote "a\"é\n😀" = "\"a\\\"\\u00e9\\n\\ud83d\\ude00\"".toList := by decide +kernel

end Support
