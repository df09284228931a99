import AgentPay.Support.Unicode
import Mathlib.Data.List.DropRight

/-!
# Stripping and case

`str.strip`, `str.upper` and `str.lower` on characters. No case mapping adds, moves or removes white
space, so a text may be stripped before or after it is mapped.
-/

namespace Support.Unicode

/-! ### Characters -/

/-- `str.isspace` -/
def isSpace (c : Char) : Bool := within spaces c.toNat

/-- The upper case of a character. -/
def upperChar (c : Char) : List Char :=
  if c.toNat < 128 then [c.toUpper]
  else (mapped upperSpecial upperRanges c.toNat).map Char.ofNat

/-- The lower case of a character, wherever it stands. -/
def lowerChar (c : Char) : List Char :=
  if c.toNat < 128 then [c.toLower]
  else (mapped lowerSpecial lowerRanges c.toNat).map Char.ofNat

def isCased (c : Char) : Bool := within casedRanges c.toNat

def isIgnorable (c : Char) : Bool := within ignorableRanges c.toNat

/-! ### Texts -/

/-- `str.strip` -/
def strip (l : List Char) : List Char := (l.dropWhile isSpace).rdropWhile isSpace

/-- `str.upper` -/
def upper (l : List Char) : List Char := l.flatMap upperChar

/-- The next character that is not ignorable is cased. -/
def casedNext (l : List Char) : Bool :=
  match l.dropWhile isIgnorable with
  | c :: _ => isCased c
  | []     => false

/-- `str.lower` of what follows a character that is cased or not: a capital sigma is final behind a
cased character and not before one. -/
def lowerAfter (cased : Bool) : List Char → List Char
  | []     => []
  | c :: l =>
    (if c = 'Σ' then [if cased && !casedNext l then 'ς' else 'σ'] else lowerChar c) ++
      lowerAfter (if isIgnorable c then cased else isCased c) l

/-- `str.lower` -/
def lower (l : List Char) : List Char := lowerAfter false l

/-! ### The tables -/

/-- No range of the list meets the code points from `lo` to `hi`. -/
def apart (ranges : List (ℕ × ℕ)) (lo hi : ℕ) : Bool :=
  ranges.all fun r => decide (hi < r.1) || decide (r.2 < lo)

lemma within_of_apart {ranges : List (ℕ × ℕ)} {lo hi n : ℕ} (h : apart ranges lo hi = true)
    (hlo : lo ≤ n) (hhi : n ≤ hi) : within ranges n = false := by
  rw [within, List.any_eq_false]
  intro r hr
  have hout := List.all_eq_true.mp h r hr
  simp only [Bool.or_eq_true, Bool.and_eq_true, decide_eq_true_eq] at hout ⊢
  omega

lemma CaseRange.covers_iff {r : CaseRange} {n : ℕ} :
    r.covers n = true ↔ r.first ≤ n ∧ n ≤ r.last ∧ (n - r.first) % r.step = 0 := by
  simp only [covers, Bool.and_eq_true, decide_eq_true_eq, and_assoc]

/-- Where a code point of a table goes. -/
inductive Maps (special : List (ℕ × List ℕ)) (ranges : List CaseRange) (n : ℕ) : List ℕ → Prop
  | range {r} (hr : r ∈ ranges) (hcovers : r.covers n = true) :
      Maps special ranges n [r.target + (n - r.first)]
  | special {entry} (hentry : entry ∈ special) (hn : entry.1 = n) : Maps special ranges n entry.2
  | same (hranges : ∀ r ∈ ranges, r.covers n = false) (hspecial : ∀ entry ∈ special, entry.1 ≠ n) :
      Maps special ranges n [n]

lemma mapped_maps (special : List (ℕ × List ℕ)) (ranges : List CaseRange) (n : ℕ) :
    Maps special ranges n (mapped special ranges n) := by
  unfold mapped
  cases hrange : ranges.find? (·.covers n) with
  | some r =>
    have hcovers := List.find?_some hrange
    exact .range (List.mem_of_find?_eq_some hrange) hcovers
  | none =>
    cases hentry : special.find? (·.1 = n) with
    | some entry =>
      have hn := List.find?_some hentry
      exact .special (List.mem_of_find?_eq_some hentry) (of_decide_eq_true hn)
    | none =>
      refine .same (fun r hr => ?_) fun entry hmem => ?_
      · simpa using List.find?_eq_none.mp hrange r hr
      · simpa using List.find?_eq_none.mp hentry entry hmem

/-- What the two tables of a case mapping have to keep apart from white space. -/
structure Spaceless (special : List (ℕ × List ℕ)) (ranges : List CaseRange) : Prop where
  ranges : ∀ r ∈ ranges, apart spaces r.first r.last = true ∧
    apart spaces r.target (r.target + (r.last - r.first)) = true
  special : ∀ entry ∈ special, within spaces entry.1 = false ∧ entry.2 ≠ [] ∧
    ∀ m ∈ entry.2, within spaces m = false

lemma upper_spaceless : Spaceless upperSpecial upperRanges :=
  ⟨by decide +kernel, by decide +kernel⟩

lemma lower_spaceless : Spaceless lowerSpecial lowerRanges :=
  ⟨by decide +kernel, by decide +kernel⟩

section Spaceless

variable {special : List (ℕ × List ℕ)} {ranges : List CaseRange} (h : Spaceless special ranges)

include h

lemma Spaceless.mapped_space {n : ℕ} (hn : within spaces n = true) :
    mapped special ranges n = [n] := by
  have hmaps := mapped_maps special ranges n
  generalize mapped special ranges n = l at hmaps ⊢
  cases hmaps with
  | range hr hcovers =>
    obtain ⟨hfirst, hlast, -⟩ := CaseRange.covers_iff.mp hcovers
    cases hn.symm.trans (within_of_apart (h.ranges _ hr).1 hfirst hlast)
  | special hentry hentryn =>
    subst hentryn
    cases hn.symm.trans (h.special _ hentry).1
  | same => rfl

lemma Spaceless.mapped_ne_nil (n : ℕ) : mapped special ranges n ≠ [] := by
  have hmaps := mapped_maps special ranges n
  generalize mapped special ranges n = l at hmaps ⊢
  cases hmaps with
  | range | same => exact List.cons_ne_nil _ _
  | special hentry => exact (h.special _ hentry).2.1

lemma Spaceless.mapped_nonspace {n : ℕ} (hn : within spaces n = false) {m : ℕ}
    (hm : m ∈ mapped special ranges n) : within spaces m = false := by
  have hmaps := mapped_maps special ranges n
  generalize mapped special ranges n = l at hmaps hm
  cases hmaps with
  | @range r hr hcovers =>
    obtain ⟨hfirst, hlast, -⟩ := CaseRange.covers_iff.mp hcovers
    obtain rfl := List.mem_singleton.mp hm
    exact within_of_apart (h.ranges _ hr).2 (by omega) (by omega)
  | special hentry => exact (h.special _ hentry).2.2 m hm
  | same =>
    obtain rfl := List.mem_singleton.mp hm
    exact hn

end Spaceless

/-! ### White space is where it was -/

/-- A mapping of characters that neither removes one nor makes or moves white space. -/
structure KeepsSpace (f : Char → List Char) : Prop where
  space : ∀ c, isSpace c = true → f c = [c]
  ne_nil : ∀ c, f c ≠ []
  nonspace : ∀ c, isSpace c = false → ∀ d ∈ f c, isSpace d = false

/-- Code points that are no character are read as the null character. -/
lemma toNat_ofNat_cases (m : ℕ) : (Char.ofNat m).toNat = m ∨ (Char.ofNat m).toNat = 0 := by
  by_cases h : m.isValidChar
  · refine .inl ?_
    rw [Char.ofNat, dif_pos h]
    rfl
  · refine .inr ?_
    rw [Char.ofNat, dif_neg h]
    rfl

lemma isSpace_ofNat {m : ℕ} (h : within spaces m = false) : isSpace (Char.ofNat m) = false := by
  rw [isSpace]
  rcases toNat_ofNat_cases m with hm | hm
  · rw [hm, h]
  · rw [hm]
    decide

/-- A mapping that is left to `ascii` below 128 and to tables above. -/
lemma Spaceless.keepsSpace {special : List (ℕ × List ℕ)} {ranges : List CaseRange}
    (h : Spaceless special ranges) {ascii : Char → Char}
    (hascii : ∀ n < 128, isSpace (ascii (Char.ofNat n)) = isSpace (Char.ofNat n) ∧
      (isSpace (Char.ofNat n) = true → ascii (Char.ofNat n) = Char.ofNat n)) :
    KeepsSpace fun c => if c.toNat < 128 then [ascii c]
      else (mapped special ranges c.toNat).map Char.ofNat := by
  refine ⟨fun c hc => ?_, fun c => ?_, fun c hc d hd => ?_⟩
  · split_ifs with hlow
    · have hsame := (hascii c.toNat hlow).2
      rw [Char.ofNat_toNat] at hsame
      rw [hsame hc]
    · rw [h.mapped_space hc, List.map_singleton, Char.ofNat_toNat]
  · split_ifs
    · exact List.cons_ne_nil _ _
    · exact mt List.map_eq_nil_iff.mp (h.mapped_ne_nil _)
  · split_ifs at hd with hlow
    · obtain rfl := List.mem_singleton.mp hd
      have hsame := (hascii c.toNat hlow).1
      rw [Char.ofNat_toNat] at hsame
      rw [hsame, hc]
    · obtain ⟨m, hm, rfl⟩ := List.mem_map.mp hd
      exact isSpace_ofNat (h.mapped_nonspace hc hm)

lemma upperChar_keepsSpace : KeepsSpace upperChar :=
  upper_spaceless.keepsSpace (by decide +kernel)

lemma lowerChar_keepsSpace : KeepsSpace lowerChar :=
  lower_spaceless.keepsSpace (by decide +kernel)

/-! ### Stripping -/

/-- Neither end is white space. -/
structure Trimmed (l : List Char) : Prop where
  head : ∀ c ∈ l.head?, isSpace c = false
  last : ∀ c ∈ l.getLast?, isSpace c = false

/-- What is stripped is what stands between the white space at the two ends. -/
lemma strip_append {before l after : List Char} (hbefore : ∀ c ∈ before, isSpace c = true)
    (hl : Trimmed l) (hafter : ∀ c ∈ after, isSpace c = true) :
    strip (before ++ l ++ after) = l := by
  have hend : (l ++ after).rdropWhile isSpace = l := by
    rw [List.rdropWhile, List.reverse_append, List.dropWhile_append_of_pos
      (fun c hc => hafter c (List.mem_reverse.mp hc))]
    have hkept : l.reverse.dropWhile isSpace = l.reverse := by
      cases hrev : l.reverse with
      | nil => rfl
      | cons c rest =>
        refine List.dropWhile_cons_of_neg ?_
        rw [hl.last c (by rw [List.getLast?_eq_head?_reverse, hrev]; rfl)]
        exact Bool.false_ne_true
    rw [hkept, List.reverse_reverse]
  rw [strip, List.append_assoc, List.dropWhile_append_of_pos hbefore]
  cases l with
  | nil =>
    have hnone : after.dropWhile isSpace = [] := by simpa using hafter
    rw [List.nil_append, hnone]
    rfl
  | cons c rest =>
    rw [List.cons_append, List.dropWhile_cons_of_neg, ← List.cons_append, hend]
    rw [hl.head c rfl]
    exact Bool.false_ne_true

lemma mem_takeWhile_isSpace {l : List Char} : ∀ c ∈ l.takeWhile isSpace, isSpace c = true :=
  fun _ hc => List.mem_takeWhile_imp hc

/-- Every text is trimmed text between white space. -/
lemma exists_trimmed (l : List Char) : ∃ before kept after, l = before ++ kept ++ after ∧
    (∀ c ∈ before, isSpace c = true) ∧ Trimmed kept ∧ ∀ c ∈ after, isSpace c = true := by
  have hsplit : l.dropWhile isSpace =
      strip l ++ ((l.dropWhile isSpace).reverse.takeWhile isSpace).reverse := by
    rw [strip, List.rdropWhile, ← List.reverse_append, List.takeWhile_append_dropWhile,
      List.reverse_reverse]
  refine ⟨l.takeWhile isSpace, strip l, ((l.dropWhile isSpace).reverse.takeWhile isSpace).reverse,
    ?_, mem_takeWhile_isSpace, ⟨fun c hc => ?_, fun c hc => ?_⟩,
    fun c hc => mem_takeWhile_isSpace c (List.mem_reverse.mp hc)⟩
  · rw [List.append_assoc, ← hsplit, List.takeWhile_append_dropWhile]
  · have hhead : (l.dropWhile isSpace).head? = some c := by
      rw [hsplit, List.head?_append, hc]
      rfl
    have hnot := List.head?_dropWhile_not isSpace l
    rw [hhead] at hnot
    simpa using hnot
  · rw [strip, List.rdropWhile, List.getLast?_reverse] at hc
    have hnot := List.head?_dropWhile_not isSpace (l.dropWhile isSpace).reverse
    rw [hc] at hnot
    simpa using hnot

lemma strip_strip (l : List Char) : strip (strip l) = strip l := by
  obtain ⟨before, kept, after, rfl, hbefore, hkept, hafter⟩ := exists_trimmed l
  rw [strip_append hbefore hkept hafter]
  have hself : strip ([] ++ kept ++ []) = kept :=
    strip_append (List.forall_mem_nil _) hkept (List.forall_mem_nil _)
  rwa [List.nil_append, List.append_nil] at hself

/-- A mapping of texts that leaves the white space at the ends as it is may come first or last. -/
lemma strip_comm {f : List Char → List Char}
    (hends : ∀ before l after, (∀ c ∈ before, isSpace c = true) → (∀ c ∈ after, isSpace c = true) →
      f (before ++ l ++ after) = before ++ f l ++ after)
    (htrimmed : ∀ l, Trimmed l → Trimmed (f l)) (l : List Char) : strip (f l) = f (strip l) := by
  obtain ⟨before, kept, after, rfl, hbefore, hkept, hafter⟩ := exists_trimmed l
  rw [hends _ _ _ hbefore hafter, strip_append hbefore (htrimmed _ hkept) hafter,
    strip_append hbefore hkept hafter]

/-! ### Upper case -/

lemma KeepsSpace.flatMap_space {f : Char → List Char} (h : KeepsSpace f) {l : List Char}
    (hl : ∀ c ∈ l, isSpace c = true) : l.flatMap f = l := by
  induction l with
  | nil => rfl
  | cons c l ih =>
    obtain ⟨hc, hl⟩ := List.forall_mem_cons.mp hl
    rw [List.flatMap_cons, h.space c hc, ih hl]
    rfl

/-- The first character of a text decides how its image begins. -/
lemma KeepsSpace.head_append {f : Char → List Char} (h : KeepsSpace f) {c : Char}
    (hc : isSpace c = false) (rest : List Char) :
    ∀ d ∈ (f c ++ rest).head?, isSpace d = false := by
  intro d hd
  cases hf : f c with
  | nil => exact absurd hf (h.ne_nil c)
  | cons x xs =>
    rw [hf] at hd
    obtain rfl := Option.some.inj hd
    exact h.nonspace c hc _ (hf ▸ List.mem_cons_self)

lemma KeepsSpace.last_append {f : Char → List Char} (h : KeepsSpace f) {c : Char}
    (hc : isSpace c = false) (rest : List Char) :
    ∀ d ∈ (rest ++ f c).getLast?, isSpace d = false := by
  intro d hd
  rw [List.getLast?_append_of_ne_nil _ (h.ne_nil c)] at hd
  exact h.nonspace c hc d (List.mem_of_getLast? hd)

lemma KeepsSpace.trimmed_flatMap {f : Char → List Char} (h : KeepsSpace f) {l : List Char}
    (hl : Trimmed l) : Trimmed (l.flatMap f) := by
  constructor
  · cases l with
    | nil => exact nofun
    | cons c l =>
      rw [List.flatMap_cons]
      exact h.head_append (hl.head c rfl) _
  · rcases List.eq_nil_or_concat l with rfl | ⟨l, c, rfl⟩
    · exact nofun
    · rw [List.concat_eq_append] at hl ⊢
      rw [List.flatMap_append, List.flatMap_singleton]
      exact h.last_append (hl.last c (by simp)) _

lemma strip_upper (l : List Char) : strip (upper l) = upper (strip l) := by
  refine strip_comm (fun before l after hbefore hafter => ?_)
    (fun l hl => upperChar_keepsSpace.trimmed_flatMap hl) l
  simp only [List.flatMap_append]
  rw [upperChar_keepsSpace.flatMap_space hbefore, upperChar_keepsSpace.flatMap_space hafter]

/-- The first range leads nowhere into the second. -/
def CaseRange.misses (r r' : CaseRange) : Bool :=
  Nat.blt (r.target + (r.last - r.first)) r'.first || Nat.blt r'.last r.target ||
    (r.step == 2 && r'.step == 2 && (r.target + r'.first) % 2 == 1)

/-- What the two tables of a case mapping keep apart, so that mapping twice is mapping once: they
map nothing to what they map, nor to an ASCII character that `ascii` maps. -/
structure Settled (special : List (ℕ × List ℕ)) (ranges : List CaseRange) (ascii : Char → Char) :
    Prop where
  apart : (ranges.all fun r => ranges.all (r.misses ·)) = true
  plain : (ranges.all fun r => special.all fun entry =>
    Nat.blt entry.1 r.target || Nat.blt (r.target + (r.last - r.first)) entry.1) = true
  low : ∀ r ∈ ranges, r.target < 128 →
    r.first = r.last ∧ ascii (Char.ofNat r.target) = Char.ofNat r.target
  listed : ∀ entry ∈ special, ∀ m ∈ entry.2,
    if m < 128 then ascii (Char.ofNat m) = Char.ofNat m else mapped special ranges m = [m]

lemma upper_settled : Settled upperSpecial upperRanges Char.toUpper :=
  ⟨by decide +kernel, by decide +kernel, by decide +kernel, by decide +kernel⟩

/-- Where a table goes, it stays. -/
lemma Settled.mapped_mapped {special : List (ℕ × List ℕ)} {ranges : List CaseRange}
    {ascii : Char → Char} (h : Settled special ranges ascii) {n m : ℕ} (hn : 128 ≤ n)
    (hm : m ∈ mapped special ranges n) :
    if m < 128 then ascii (Char.ofNat m) = Char.ofNat m else mapped special ranges m = [m] := by
  have hmaps := mapped_maps special ranges n
  generalize hl : mapped special ranges n = l at hmaps hm
  cases hmaps with
  | @range r hr hcovers =>
    obtain ⟨hfirst, hlast, hstep⟩ := CaseRange.covers_iff.mp hcovers
    obtain rfl := List.mem_singleton.mp hm
    split_ifs with hlow
    · obtain ⟨hone, hsame⟩ := h.low r hr (by omega)
      rwa [show r.target + (n - r.first) = r.target by omega]
    · have hmaps := mapped_maps special ranges (r.target + (n - r.first))
      generalize mapped special ranges (r.target + (n - r.first)) = l at hmaps ⊢
      cases hmaps with
      | @range r' hr' hcovers' =>
        obtain ⟨hfirst', hlast', hstep'⟩ := CaseRange.covers_iff.mp hcovers'
        have hmisses := List.all_eq_true.mp (List.all_eq_true.mp h.apart r hr) r' hr'
        simp only [CaseRange.misses, Bool.or_eq_true, Bool.and_eq_true, Nat.blt_eq, beq_iff_eq,
          or_assoc, and_assoc] at hmisses
        rcases hmisses with hbelow | habove | ⟨htwo, htwo', hodd⟩
        · omega
        · omega
        · rw [htwo] at hstep
          rw [htwo'] at hstep'
          omega
      | special hentry hentryn =>
        have hplain := List.all_eq_true.mp (List.all_eq_true.mp h.plain r hr) _ hentry
        simp only [Bool.or_eq_true, Nat.blt_eq] at hplain
        omega
      | same => rfl
  | special hentry => exact h.listed _ hentry m hm
  | same =>
    obtain rfl := List.mem_singleton.mp hm
    rwa [if_neg (by omega)]

lemma toUpper_toUpper_ofNat : ∀ n < 128, (Char.ofNat n).toUpper.toUpper = (Char.ofNat n).toUpper ∧
    (Char.ofNat n).toUpper.toNat < 128 := by
  decide +kernel

lemma upperChar_upperChar {c d : Char} (hd : d ∈ upperChar c) : upperChar d = [d] := by
  rw [upperChar] at hd
  split_ifs at hd with hlow
  · obtain rfl := List.mem_singleton.mp hd
    have hsame := toUpper_toUpper_ofNat c.toNat hlow
    rw [Char.ofNat_toNat] at hsame
    rw [upperChar, if_pos hsame.2, hsame.1]
  · obtain ⟨m, hm, rfl⟩ := List.mem_map.mp hd
    have hstays := upper_settled.mapped_mapped (not_lt.mp hlow) hm
    rcases toNat_ofNat_cases m with hvalid | hnull
    · rw [upperChar, hvalid]
      split_ifs at hstays ⊢
      · rw [hstays]
      · rw [hstays, List.map_singleton]
    · have hzero : Char.ofNat m = Char.ofNat 0 := by rw [← Char.ofNat_toNat (Char.ofNat m), hnull]
      rw [hzero]
      decide +kernel

lemma upper_upper (l : List Char) : upper (upper l) = upper l := by
  induction l with
  | nil => rfl
  | cons c l ih =>
    have hc : (upperChar c).flatMap upperChar = upperChar c := by
      rw [List.flatMap_congr fun d hd => upperChar_upperChar hd, List.flatMap_singleton']
    rw [upper, upper, List.flatMap_cons, List.flatMap_append, hc]
    exact congrArg _ ih

/-! ### Lower case -/

/-- White space is neither cased nor skipped. -/
lemma not_cased_of_isSpace {c : Char} (hc : isSpace c = true) :
    isCased c = false ∧ isIgnorable c = false := by
  have hapart : ∀ r ∈ spaces, apart casedRanges r.1 r.2 = true ∧
      apart ignorableRanges r.1 r.2 = true := by
    decide +kernel
  obtain ⟨r, hr, hin⟩ := List.any_eq_true.mp hc
  simp only [Bool.and_eq_true, decide_eq_true_eq] at hin
  exact ⟨within_of_apart (hapart r hr).1 hin.1 hin.2, within_of_apart (hapart r hr).2 hin.1 hin.2⟩

lemma casedNext_space {l : List Char} (hl : ∀ c ∈ l, isSpace c = true) : casedNext l = false := by
  cases l with
  | nil => rfl
  | cons c l =>
    obtain ⟨hcased, hignorable⟩ := not_cased_of_isSpace (hl c List.mem_cons_self)
    rw [casedNext, List.dropWhile_cons_of_neg (by rw [hignorable]; exact Bool.false_ne_true)]
    exact hcased

lemma casedNext_append (l : List Char) {after : List Char}
    (hafter : ∀ c ∈ after, isSpace c = true) : casedNext (l ++ after) = casedNext l := by
  induction l with
  | nil => exact casedNext_space hafter
  | cons c l ih =>
    rw [casedNext, casedNext] at ih ⊢
    rw [List.cons_append]
    cases hc : isIgnorable c with
    | true => rw [List.dropWhile_cons_of_pos hc, List.dropWhile_cons_of_pos hc, ih]
    | false =>
      rw [List.dropWhile_cons_of_neg (by simp [hc]), List.dropWhile_cons_of_neg (by simp [hc])]

/-- White space goes through, and is no cased character for what follows. -/
lemma lowerAfter_cons_space {c : Char} (hc : isSpace c = true) (cased : Bool) (l : List Char) :
    lowerAfter cased (c :: l) = c :: lowerAfter false l := by
  obtain ⟨hcased, hignorable⟩ := not_cased_of_isSpace hc
  have hsigma : c ≠ 'Σ' := by
    rintro rfl
    revert hc
    decide +kernel
  rw [lowerAfter, if_neg hsigma, lowerChar_keepsSpace.space c hc, hignorable,
    if_neg Bool.false_ne_true, hcased]
  rfl

lemma lowerAfter_space_append {before : List Char} (hbefore : ∀ c ∈ before, isSpace c = true)
    (l : List Char) : lowerAfter false (before ++ l) = before ++ lowerAfter false l := by
  induction before with
  | nil => rfl
  | cons c before ih =>
    obtain ⟨hc, hbefore⟩ := List.forall_mem_cons.mp hbefore
    rw [List.cons_append, lowerAfter_cons_space hc, ih hbefore, List.cons_append]

lemma lowerAfter_space {l : List Char} (hl : ∀ c ∈ l, isSpace c = true) (cased : Bool) :
    lowerAfter cased l = l := by
  induction l generalizing cased with
  | nil => rfl
  | cons c l ih =>
    obtain ⟨hc, hl⟩ := List.forall_mem_cons.mp hl
    rw [lowerAfter_cons_space hc, ih hl]

lemma lowerAfter_append_space {after : List Char} (hafter : ∀ c ∈ after, isSpace c = true)
    (l : List Char) (cased : Bool) :
    lowerAfter cased (l ++ after) = lowerAfter cased l ++ after := by
  induction l generalizing cased with
  | nil => exact lowerAfter_space hafter cased
  | cons c l ih =>
    rw [List.cons_append, lowerAfter, lowerAfter, casedNext_append l hafter, ih, List.append_assoc]

/-- What stands for a character in the lower case of a text. -/
lemma lowerAfter_cons (cased : Bool) (c : Char) (l : List Char) : ∃ piece,
    lowerAfter cased (c :: l) =
      piece ++ lowerAfter (if isIgnorable c then cased else isCased c) l ∧
    piece ≠ [] ∧ (isSpace c = false → ∀ d ∈ piece, isSpace d = false) := by
  refine ⟨_, rfl, ?_, fun hc d hd => ?_⟩
  · split_ifs
    · exact List.cons_ne_nil _ _
    · exact List.cons_ne_nil _ _
    · exact lowerChar_keepsSpace.ne_nil c
  · split_ifs at hd with hsigma hfinal
    · obtain rfl := List.mem_singleton.mp hd
      decide +kernel
    · obtain rfl := List.mem_singleton.mp hd
      decide +kernel
    · exact lowerChar_keepsSpace.nonspace c hc d hd

lemma trimmed_lower {l : List Char} (hl : Trimmed l) : Trimmed (lower l) := by
  have hlast : ∀ l : List Char, ∀ cased, (∀ c ∈ l.getLast?, isSpace c = false) →
      ∀ c ∈ (lowerAfter cased l).getLast?, isSpace c = false := by
    intro l
    induction l with
    | nil => exact fun _ _ => nofun
    | cons c l ih =>
      intro cased hc d hd
      obtain ⟨piece, hpiece, hne, hnonspace⟩ := lowerAfter_cons cased c l
      rw [hpiece] at hd
      cases l with
      | nil =>
        rw [lowerAfter, List.append_nil] at hd
        exact hnonspace (hc c rfl) d (List.mem_of_getLast? hd)
      | cons c' l =>
        obtain ⟨piece', hpiece', hne', -⟩ :=
          lowerAfter_cons (if isIgnorable c then cased else isCased c) c' l
        rw [List.getLast?_append_of_ne_nil _ (by rw [hpiece']; simp [hne'])] at hd
        exact ih _ (fun x hx => hc x (by rwa [List.getLast?_cons_cons])) d hd
  refine ⟨?_, hlast l false hl.last⟩
  cases l with
  | nil => exact nofun
  | cons c l =>
    intro d hd
    obtain ⟨piece, hpiece, hne, hnonspace⟩ := lowerAfter_cons false c l
    rw [lower, hpiece] at hd
    cases piece with
    | nil => exact absurd rfl hne
    | cons x piece =>
      obtain rfl := Option.some.inj hd
      exact hnonspace (hl.head c rfl) _ List.mem_cons_self

lemma strip_lower (l : List Char) : strip (lower l) = lower (strip l) := by
  refine strip_comm (fun before l after hbefore hafter => ?_) (fun l hl => trimmed_lower hl) l
  rw [lower, lowerAfter_append_space hafter, lowerAfter_space_append hbefore, lower]

end Support.Unicode
