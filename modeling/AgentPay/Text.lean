import AgentPay.Values

/-!
# Text

Case folding moves no whitespace, so it does not matter whether a text is folded or stripped first.
-/

namespace AgentPay

open Support

lemma strip_strip (s : String) : strip (strip s) = strip s := by
  simp only [strip, String.toList_ofList, Unicode.strip_strip]

lemma strip_upper (s : String) : strip (upper s) = upper (strip s) := by
  simp only [strip, upper, String.toList_ofList, Unicode.strip_upper]

lemma strip_lower (s : String) : strip (lower s) = lower (strip s) := by
  simp only [strip, lower, String.toList_ofList, Unicode.strip_lower]

lemma upper_upper (s : String) : upper (upper s) = upper s := by
  simp only [upper, String.toList_ofList, Unicode.upper_upper]

/-- A normalised currency is normal. -/
lemma normCurrency_normCurrency (c : String) : normCurrency (normCurrency c) = normCurrency c := by
  simp only [normCurrency, strip_upper, strip_strip, upper_upper]

end AgentPay
