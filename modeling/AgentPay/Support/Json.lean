import AgentPay.Support.Quoted
import Mathlib.Data.List.Sort
import Mathlib.Data.List.Nodup
import Mathlib.Data.String.Basic

/-!
# JSON values and their text

A value over any kind of number, its text, and the text with the keys of every object in order. A
value can be read off its text, whatever follows it, so that values with one text are equal; values
whose ordered texts agree are equal up to the order of the keys.
-/

namespace Support

/-- A JSON value; the fields of an object stand in the order in which they are written. -/
inductive Value (ν : Type) where
  | null
  | bool (value : Bool)
  | number (value : ν)
  | text (value : String)
  | array (items : List (Value ν))
  | object (fields : List (String × Value ν))

/-- The characters of numbers. -/
def isNumeral (c : Char) : Bool := c.isDigit || c ∈ ['-', '+', '.', 'e', 'E']

/-- A way to spell numbers that tells them apart. -/
structure Numerals (ν : Type) where
  spell : ν → List Char
  injective : Function.Injective spell
  nonempty : ∀ n, spell n ≠ []
  numeral : ∀ n, ∀ c ∈ spell n, isNumeral c

namespace Value

variable {ν : Type}

/-! ### Text -/

/-- What stands before an item that is not the first. -/
def separator (gap : List Char) (first : Bool) : List Char := if first then [] else ',' :: gap

mutual

/-- The text of a value, with `gap` after each comma and colon. -/
def render (spell : ν → List Char) (gap : List Char) : Value ν → List Char
  | .null          => "null".toList
  | .bool true     => "true".toList
  | .bool false    => "false".toList
  | .number n      => spell n
  | .text s        => quote s
  | .array items   => '[' :: renderItems spell gap true items ++ [']']
  | .object fields => '{' :: renderFields spell gap true fields ++ ['}']

def renderItems (spell : ν → List Char) (gap : List Char) : Bool → List (Value ν) → List Char
  | _,     []            => []
  | first, item :: items =>
    separator gap first ++ render spell gap item ++ renderItems spell gap false items

def renderFields (spell : ν → List Char) (gap : List Char) :
    Bool → List (String × Value ν) → List Char
  | _,     []                     => []
  | first, (key, value) :: fields =>
    separator gap first ++ (quote key ++ (':' :: gap ++ render spell gap value)) ++
      renderFields spell gap false fields

end

/-! ### Reading a value off its text -/

/-- What the first character of a text tells of the value. -/
inductive Kind where
  | null
  | bool (value : Bool)
  | number
  | text
  | array
  | object

def kind : Value ν → Kind
  | .null     => .null
  | .bool b   => .bool b
  | .number _ => .number
  | .text _   => .text
  | .array _  => .array
  | .object _ => .object

def kindOf (c : Char) : Option Kind :=
  if isNumeral c then some .number
  else
    match c with
    | 'n' => some .null
    | 't' => some (.bool true)
    | 'f' => some (.bool false)
    | '"' => some .text
    | '[' => some .array
    | '{' => some .object
    | _   => none

/-- No number goes on here. -/
def Stops (rest : List Char) : Prop := ∀ c ∈ rest.head?, isNumeral c = false

lemma stops_cons {c : Char} {rest : List Char} (h : isNumeral c = false) : Stops (c :: rest) := by
  rintro d hd
  rw [List.head?_cons, Option.mem_some_iff] at hd
  exact hd ▸ h

variable (numerals : Numerals ν) (gap : List Char)

/-- A text starts with a character that tells the kind of the value. -/
lemma render_eq_cons (v : Value ν) :
    ∃ c rest, render numerals.spell gap v = c :: rest ∧ kindOf c = some v.kind := by
  cases v with
  | null          => exact ⟨'n', "ull".toList, by simp [render], rfl⟩
  | bool b        =>
    cases b with
    | false => exact ⟨'f', "alse".toList, by simp [render], rfl⟩
    | true  => exact ⟨'t', "rue".toList, by simp [render], rfl⟩
  | number n      =>
    cases hspell : numerals.spell n with
    | nil         => exact absurd hspell (numerals.nonempty n)
    | cons c rest =>
      have hc : isNumeral c := numerals.numeral n c (by simp [hspell])
      exact ⟨c, rest, by rw [render, hspell], by simp [kindOf, hc, kind]⟩
  | text s        => exact ⟨'"', _, by rw [render, quote, List.cons_append], rfl⟩
  | array items   => exact ⟨'[', _, by rw [render, List.cons_append], rfl⟩
  | object fields => exact ⟨'{', _, by rw [render, List.cons_append], rfl⟩

variable {numerals gap}

lemma kind_eq_of_render {v w : Value ν} {r s : List Char}
    (h : render numerals.spell gap v ++ r = render numerals.spell gap w ++ s) :
    v.kind = w.kind := by
  obtain ⟨c, vs, hv, hc⟩ := render_eq_cons numerals gap v
  obtain ⟨d, ws, hw, hd⟩ := render_eq_cons numerals gap w
  rw [hv, hw, List.cons_append, List.cons_append, List.cons.injEq] at h
  rw [h.1, hd] at hc
  exact (Option.some.inj hc).symm

/-- Numbers are told apart where no number goes on. -/
lemma spell_append_inj {m n : ν} {r s : List Char} (hr : Stops r) (hs : Stops s)
    (h : numerals.spell m ++ r = numerals.spell n ++ s) : m = n ∧ r = s := by
  have htake (k : ν) {rest : List Char} (hrest : Stops rest) :
      (numerals.spell k ++ rest).takeWhile isNumeral = numerals.spell k := by
    rw [List.takeWhile_append_of_pos (numerals.numeral k)]
    cases rest with
    | nil         => simp
    | cons c rest => simp [hrest c rfl]
  have hspell : numerals.spell m = numerals.spell n := by
    rw [← htake m hr, h, htake n hs]
  rw [hspell] at h
  exact ⟨numerals.injective hspell, List.append_cancel_left h⟩

/-- An item does not start like the end of the list it stands in. -/
lemma separator_append_ne {first : Bool} {item rest : List Char} {c close : Char}
    (hclose : ',' ≠ close) (hc : c ≠ close) :
    separator gap first ++ (c :: item) ≠ close :: rest := by
  cases first with
  | false =>
    intro h
    rw [separator, if_neg Bool.false_ne_true, List.cons_append, List.cons.injEq] at h
    exact hclose h.1
  | true  =>
    intro h
    rw [separator, if_pos rfl, List.nil_append, List.cons.injEq] at h
    exact hc h.1

lemma stops_renderItems (items : List (Value ν)) (rest : List Char) :
    Stops (renderItems numerals.spell gap false items ++ ']' :: rest) := by
  cases items with
  | nil             => exact stops_cons rfl
  | cons item items => exact stops_cons rfl

lemma stops_renderFields (fields : List (String × Value ν)) (rest : List Char) :
    Stops (renderFields numerals.spell gap false fields ++ '}' :: rest) := by
  cases fields with
  | nil           => exact stops_cons rfl
  | cons f fields => exact stops_cons rfl

lemma renderItems_cons_ne {first : Bool} {item : Value ν} {items : List (Value ν)}
    {r s : List Char} :
    renderItems numerals.spell gap first (item :: items) ++ r ≠ ']' :: s := by
  obtain ⟨c, rest, hitem, hc⟩ := render_eq_cons numerals gap item
  rw [renderItems, hitem, List.append_assoc, List.append_assoc, List.cons_append]
  refine separator_append_ne (by decide) ?_
  rintro rfl
  cases hc

lemma renderFields_cons_ne {first : Bool} {f : String × Value ν}
    {fields : List (String × Value ν)} {r s : List Char} :
    renderFields numerals.spell gap first (f :: fields) ++ r ≠ '}' :: s := by
  rw [renderFields, quote, List.append_assoc, List.append_assoc, List.append_assoc,
    List.cons_append, List.cons_append]
  exact separator_append_ne (by decide) (by decide)

mutual

/-- The text of a value tells it from any other value, whatever follows. -/
theorem render_append_inj : ∀ (v w : Value ν) {r s : List Char}, Stops r → Stops s →
    render numerals.spell gap v ++ r = render numerals.spell gap w ++ s → v = w ∧ r = s
  | .null, w, r, s, _, _, h => by
    cases w <;> cases kind_eq_of_render h
    exact ⟨rfl, List.append_cancel_left h⟩
  | .bool b, w, r, s, _, _, h => by
    cases w <;> cases kind_eq_of_render h
    exact ⟨rfl, List.append_cancel_left h⟩
  | .number m, w, r, s, hr, hs, h => by
    cases w <;> cases kind_eq_of_render h
    rw [render, render] at h
    obtain ⟨rfl, hrest⟩ := spell_append_inj hr hs h
    exact ⟨rfl, hrest⟩
  | .text a, w, r, s, _, _, h => by
    cases w <;> cases kind_eq_of_render h
    rw [render, render] at h
    obtain ⟨rfl, hrest⟩ := quote_append_inj h
    exact ⟨rfl, hrest⟩
  | .array items, w, r, s, _, _, h => by
    cases w <;> cases kind_eq_of_render h
    simp only [render, List.cons_append, List.append_assoc, List.nil_append, List.cons.injEq,
      true_and] at h
    obtain ⟨rfl, hrest⟩ := renderItems_append_inj items _ h
    exact ⟨rfl, hrest⟩
  | .object fields, w, r, s, _, _, h => by
    cases w <;> cases kind_eq_of_render h
    simp only [render, List.cons_append, List.append_assoc, List.nil_append, List.cons.injEq,
      true_and] at h
    obtain ⟨rfl, hrest⟩ := renderFields_append_inj fields _ h
    exact ⟨rfl, hrest⟩

theorem renderItems_append_inj {first : Bool} : ∀ (vs ws : List (Value ν)) {r s : List Char},
    renderItems numerals.spell gap first vs ++ ']' :: r =
      renderItems numerals.spell gap first ws ++ ']' :: s → vs = ws ∧ r = s
  | [], [], r, s, h => by simpa [renderItems] using h
  | [], w :: ws, r, s, h => absurd h.symm renderItems_cons_ne
  | v :: vs, [], r, s, h => absurd h renderItems_cons_ne
  | v :: vs, w :: ws, r, s, h => by
    simp only [renderItems, List.append_assoc, List.append_cancel_left_eq] at h
    obtain ⟨rfl, hrest⟩ := render_append_inj v w (stops_renderItems _ _) (stops_renderItems _ _) h
    obtain ⟨rfl, hend⟩ := renderItems_append_inj vs ws hrest
    exact ⟨rfl, hend⟩

theorem renderFields_append_inj {first : Bool} :
    ∀ (fs gs : List (String × Value ν)) {r s : List Char},
      renderFields numerals.spell gap first fs ++ '}' :: r =
        renderFields numerals.spell gap first gs ++ '}' :: s → fs = gs ∧ r = s
  | [], [], r, s, h => by simpa [renderFields] using h
  | [], g :: gs, r, s, h => absurd h.symm renderFields_cons_ne
  | f :: fs, [], r, s, h => absurd h renderFields_cons_ne
  | (key, v) :: fs, (other, w) :: gs, r, s, h => by
    simp only [renderFields, List.append_assoc, List.append_cancel_left_eq] at h
    obtain ⟨rfl, hvalue⟩ := quote_append_inj h
    simp only [List.cons_append, List.append_cancel_left_eq, List.cons.injEq, true_and] at hvalue
    obtain ⟨rfl, hrest⟩ :=
      render_append_inj v w (stops_renderFields _ _) (stops_renderFields _ _) hvalue
    obtain ⟨rfl, hend⟩ := renderFields_append_inj fs gs hrest
    exact ⟨rfl, hend⟩

end

/-- Values with one text are equal. -/
theorem render_injective (numerals : Numerals ν) (gap : List Char) :
    Function.Injective (render numerals.spell gap) := by
  intro v w h
  have hstop : Stops [] := by simp [Stops]
  exact (render_append_inj v w hstop hstop (congrArg (· ++ []) h)).1

/-! ### Keys in order -/

mutual

/-- The fields of every object ordered by their keys. -/
def sortKeys : Value ν → Value ν
  | .array items   => .array (sortItems items)
  | .object fields => .object (List.insertionSort (fun f g => f.1 ≤ g.1) (sortFields fields))
  | value          => value

def sortItems : List (Value ν) → List (Value ν)
  | []            => []
  | item :: items => sortKeys item :: sortItems items

def sortFields : List (String × Value ν) → List (String × Value ν)
  | []                     => []
  | (key, value) :: fields => (key, sortKeys value) :: sortFields fields

end

lemma sortItems_eq (items : List (Value ν)) : sortItems items = items.map sortKeys := by
  induction items with
  | nil => rfl
  | cons item items ih => rw [sortItems, ih, List.map_cons]

lemma sortFields_eq (fields : List (String × Value ν)) :
    sortFields fields = fields.map fun f => (f.1, sortKeys f.2) := by
  induction fields with
  | nil => rfl
  | cons f fields ih => rw [sortFields, ih, List.map_cons]

/-- Objects with the same distinct keys in the same order are told apart by their fields. -/
lemma eq_of_perm_of_keys {α : Type} {l m : List (String × α)}
    (hkeys : l.map Prod.fst = m.map Prod.fst) (hnodup : (l.map Prod.fst).Nodup)
    (h : l.Perm m) : l = m := by
  induction l generalizing m with
  | nil         => exact (List.nil_perm.mp h).symm
  | cons x l ih =>
    cases m with
    | nil      => exact List.perm_nil.mp h
    | cons y m =>
      simp only [List.map_cons, List.cons.injEq, List.nodup_cons] at hkeys hnodup
      obtain ⟨hkey, hrest⟩ := hkeys
      obtain rfl | hlater := List.mem_cons.mp (h.mem_iff.mp List.mem_cons_self)
      · rw [ih hrest hnodup.2 (h.cons_inv)]
      · have hmem : x.1 ∈ m.map Prod.fst := List.mem_map_of_mem hlater
        exact absurd (hrest ▸ hmem) hnodup.1

theorem fields_eq_of_sortKeys {fs gs : List (String × Value ν)}
    (h : sortKeys (.object fs) = sortKeys (.object gs))
    (hkeys : fs.map Prod.fst = gs.map Prod.fst) (hnodup : (fs.map Prod.fst).Nodup) :
    fs.map (fun f => sortKeys f.2) = gs.map fun f => sortKeys f.2 := by
  have hfst (fs : List (String × Value ν)) :
      (sortFields fs).map Prod.fst = fs.map Prod.fst := by
    rw [sortFields_eq, List.map_map]
    rfl
  have hsnd (fs : List (String × Value ν)) :
      (sortFields fs).map Prod.snd = fs.map fun f => sortKeys f.2 := by
    rw [sortFields_eq, List.map_map]
    rfl
  have hsort := List.perm_insertionSort (fun f g : String × Value ν => f.1 ≤ g.1)
  rw [sortKeys, sortKeys, object.injEq] at h
  have hperm := hsort (sortFields fs)
  rw [h] at hperm
  have hfields : sortFields fs = sortFields gs := by
    apply eq_of_perm_of_keys
    · rw [hfst, hfst, hkeys]
    · rwa [hfst]
    · exact hperm.symm.trans (hsort (sortFields gs))
  rw [← hsnd, hfields, hsnd]

/-- The text without blanks and with the keys of every object in order. -/
def canonical (spell : ν → List Char) (v : Value ν) : String :=
  String.ofList (render spell [] (sortKeys v))

lemma canonical_inj (numerals : Numerals ν) {v w : Value ν} :
    canonical numerals.spell v = canonical numerals.spell w ↔ sortKeys v = sortKeys w := by
  rw [canonical, canonical, String.ofList_inj, (render_injective numerals []).eq_iff]

/-! ### Dumps that tell -/

/-- The value that is dumped can be told from its canonical text. -/
def Tells {α : Type} (dump : α → Value ν) : Prop :=
  ∀ ⦃a b : α⦄, sortKeys (dump a) = sortKeys (dump b) → a = b

/-- `None` is dumped as `null`. -/
def ofOption {α : Type} (dump : α → Value ν) : Option α → Value ν
  | none   => .null
  | some a => dump a

lemma tells_text : Tells (ν := ν) .text := by
  intro a b h
  simpa [sortKeys] using h

lemma tells_number : Tells (ν := ν) .number := by
  intro a b h
  simpa [sortKeys] using h

variable {α : Type} {dump : α → Value ν}

lemma Tells.comp {β : Type} {f : β → α} (h : Tells dump) (hf : Function.Injective f) :
    Tells (dump ∘ f) := fun _ _ heq => hf (h heq)

lemma Tells.array (h : Tells dump) : Tells fun l : List α => Value.array (l.map dump) := by
  intro l m heq
  simp only [sortKeys, array.injEq, sortItems_eq, List.map_map] at heq
  exact List.map_injective_iff.mpr (fun _ _ hab => h hab) heq

lemma Tells.ofOption (h : Tells dump) (hnull : ∀ a, sortKeys (dump a) ≠ .null) :
    Tells (ofOption dump) := by
  intro a b heq
  cases a with
  | none   =>
    cases b with
    | none   => rfl
    | some b => exact absurd heq.symm (hnull b)
  | some a =>
    cases b with
    | none   => exact absurd heq (hnull a)
    | some b => rw [h heq]

end Value

/-! ### Whole numbers -/

/-- A whole number in decimal notation. -/
def spellInt (n : ℤ) : List Char := (toString n).toList

lemma spellInt_eq (n : ℤ) : spellInt n =
    if 0 ≤ n then Nat.toDigits 10 n.toNat else '-' :: Nat.toDigits 10 (-n).toNat := by
  rw [spellInt, Int.toString_eq_repr, Int.repr_eq_if]
  split_ifs <;> simp [Nat.toList_repr]

lemma toDigits_injective : Function.Injective (Nat.toDigits 10) := by
  intro m n h
  rw [← @Nat.ofDigitChars_ten_toDigits m, h, Nat.ofDigitChars_ten_toDigits]

lemma toDigits_ne_minus (n : ℕ) (rest : List Char) : Nat.toDigits 10 n ≠ '-' :: rest := by
  intro h
  have hmem : '-' ∈ Nat.toDigits 10 n := by simp [h]
  cases Nat.isDigit_of_mem_toDigits (by omega) (by omega) hmem

lemma spellInt_injective : Function.Injective spellInt := by
  intro a b h
  rw [spellInt_eq, spellInt_eq] at h
  split_ifs at h with ha hb hb
  · have hnat := toDigits_injective h
    omega
  · exact absurd h (toDigits_ne_minus _ _)
  · exact absurd h.symm (toDigits_ne_minus _ _)
  · have hnat := toDigits_injective (List.cons.inj h).2
    omega

def Numerals.int : Numerals ℤ where
  spell := spellInt
  injective := spellInt_injective
  nonempty n := by
    rw [spellInt_eq]
    split_ifs
    · exact Nat.toDigits_ne_nil
    · exact List.cons_ne_nil _ _
  numeral n c hc := by
    have hdigit {m : ℕ} (h : c ∈ Nat.toDigits 10 m) : isNumeral c := by
      rw [isNumeral, Nat.isDigit_of_mem_toDigits (by omega) (by omega) h, Bool.true_or]
    rw [spellInt_eq] at hc
    split_ifs at hc with hn
    · exact hdigit hc
    · obtain rfl | htail := List.mem_cons.mp hc
      · rfl
      · exact hdigit htail

end Support
