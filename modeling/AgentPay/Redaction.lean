import AgentPay.Support.Json

/-!
# Redaction of provider payloads

`sanitize_payload` and the two columns of `provider_events` that are made of its result. What stands
under a secret key, at whatever depth, is replaced as a whole and leaves no trace in what is stored.
`str.lower` is a parameter: nothing here depends on what it does to a key.
-/

namespace AgentPay

open Support

/-! ### The code -/

/-- `_SECRET_KEYS` -/
def secretKeys : List String :=
  ["pan", "card_number", "cvv", "cvc", "pin", "private_key", "secret", "api_key", "access_token",
    "refresh_token", "authorization"]

/-- `"[REDACTED]"` -/
def redacted {ν : Type} : Value ν := .text "[REDACTED]"

section

variable {ν : Type} (lower : String → String)

/-- `str(k).lower() in _SECRET_KEYS` -/
def Secret (key : String) : Prop := lower key ∈ secretKeys

instance (key : String) : Decidable (Secret lower key) := inferInstanceAs (Decidable (_ ∈ _))

mutual

/-- `sanitize_payload` -/
def sanitizePayload : Value ν → Value ν
  | .object fields => .object (sanitizeFields fields)
  | .array items   => .array (sanitizeItems items)
  | value          => value

def sanitizeFields : List (String × Value ν) → List (String × Value ν)
  | []                 => []
  | (k, v) :: fields =>
    (k, if Secret lower k then redacted else sanitizePayload v) :: sanitizeFields fields

def sanitizeItems : List (Value ν) → List (Value ν)
  | []          => []
  | v :: items => sanitizePayload v :: sanitizeItems items

end

/-- The columns `payload` and `payload_digest` of a provider event. -/
structure RecordedPayload where
  payload : String
  payloadDigest : String
  deriving DecidableEq, Repr

/-- What `ProviderEventRepository.record` stores of a payload. -/
def recordPayload (spell : ν → List Char) (sha256 : String → String) (payload : Value ν) :
    RecordedPayload :=
  let safePayload := sanitizePayload lower payload
  { payload := String.ofList (safePayload.render spell [' '])
    payloadDigest := sha256 (safePayload.canonical spell) }

/-! ### Secrets in a value -/

/-- An object has the field, at some depth of the value. -/
inductive HasField (key : String) (v : Value ν) : Value ν → Prop
  | here {fields : List (String × Value ν)} (h : (key, v) ∈ fields) :
      HasField key v (.object fields)
  | field {fields : List (String × Value ν)} {f : String × Value ν} (h : f ∈ fields)
      (hin : HasField key v f.2) : HasField key v (.object fields)
  | item {items : List (Value ν)} {item : Value ν} (h : item ∈ items)
      (hin : HasField key v item) : HasField key v (.array items)

/-- Every secret of the value is redacted. -/
def Redacted (w : Value ν) : Prop := ∀ key v, HasField key v w → Secret lower key → v = redacted

mutual

/-- The two values differ inside values under secret keys at most. -/
inductive Agrees : Value ν → Value ν → Prop
  | null : Agrees .null .null
  | bool (b : Bool) : Agrees (.bool b) (.bool b)
  | number (n : ν) : Agrees (.number n) (.number n)
  | text (s : String) : Agrees (.text s) (.text s)
  | array {vs ws : List (Value ν)} (h : AgreesItems vs ws) : Agrees (.array vs) (.array ws)
  | object {fs gs : List (String × Value ν)} (h : AgreesFields fs gs) :
      Agrees (.object fs) (.object gs)

inductive AgreesItems : List (Value ν) → List (Value ν) → Prop
  | nil : AgreesItems [] []
  | cons {v w : Value ν} {vs ws : List (Value ν)} (h : Agrees v w) (hs : AgreesItems vs ws) :
      AgreesItems (v :: vs) (w :: ws)

inductive AgreesFields : List (String × Value ν) → List (String × Value ν) → Prop
  | nil : AgreesFields [] []
  | secret {key : String} (v w : Value ν) {fs gs : List (String × Value ν)}
      (hkey : Secret lower key) (hs : AgreesFields fs gs) :
      AgreesFields ((key, v) :: fs) ((key, w) :: gs)
  | plain {key : String} {v w : Value ν} {fs gs : List (String × Value ν)}
      (hkey : ¬ Secret lower key) (h : Agrees v w) (hs : AgreesFields fs gs) :
      AgreesFields ((key, v) :: fs) ((key, w) :: gs)

end

variable {lower}

/-! ### What is redacted and what is kept -/

lemma sanitizeItems_eq (items : List (Value ν)) :
    sanitizeItems lower items = items.map (sanitizePayload lower) := by
  induction items with
  | nil            => rfl
  | cons v items ih => rw [sanitizeItems, ih, List.map_cons]

lemma sanitizeFields_eq (fields : List (String × Value ν)) :
    sanitizeFields lower fields = fields.map fun f =>
      (f.1, if Secret lower f.1 then redacted else sanitizePayload lower f.2) := by
  induction fields with
  | nil             => rfl
  | cons f fields ih => rw [sanitizeFields, ih, List.map_cons]

/-- No secret is left at any depth. -/
theorem redacted_sanitizePayload (w : Value ν) : Redacted lower (sanitizePayload lower w) := by
  intro key v h hsecret
  generalize hw : sanitizePayload lower w = s at h
  induction h generalizing w with
  | here h =>
    cases w <;> cases hw
    rw [sanitizeFields_eq] at h
    obtain ⟨f, -, hf⟩ := List.mem_map.mp h
    obtain ⟨rfl, rfl⟩ := Prod.mk.inj hf
    exact if_pos hsecret
  | @field _ g h hin ih =>
    cases w <;> cases hw
    rw [sanitizeFields_eq] at h
    obtain ⟨f, -, rfl⟩ := List.mem_map.mp h
    by_cases hf : Secret lower f.1
    · simp only [hf, if_true] at hin
      cases hin
    · exact ih f.2 (if_neg hf).symm
  | item h hin ih =>
    cases w <;> cases hw
    rw [sanitizeItems_eq] at h
    obtain ⟨item, -, rfl⟩ := List.mem_map.mp h
    exact ih item rfl

mutual

/-- Nothing is changed but secrets. -/
theorem agrees_sanitizePayload : ∀ v : Value ν, Agrees lower v (sanitizePayload lower v)
  | .null          => .null
  | .bool b        => .bool b
  | .number n      => .number n
  | .text s        => .text s
  | .array items   => .array (agrees_sanitizeItems items)
  | .object fields => .object (agrees_sanitizeFields fields)

lemma agrees_sanitizeItems :
    ∀ items : List (Value ν), AgreesItems lower items (sanitizeItems lower items)
  | []         => .nil
  | v :: items => .cons (agrees_sanitizePayload v) (agrees_sanitizeItems items)

lemma agrees_sanitizeFields :
    ∀ fields : List (String × Value ν), AgreesFields lower fields (sanitizeFields lower fields)
  | []               => .nil
  | (k, v) :: fields => by
    have hrest := agrees_sanitizeFields fields
    rw [sanitizeFields]
    by_cases hkey : Secret lower k
    · exact .secret _ _ hkey hrest
    · rw [if_neg hkey]
      exact .plain hkey (agrees_sanitizePayload v) hrest

end

/-! ### What secrets can tell -/

mutual

/-- Nothing inside a secret has an influence on the result. -/
theorem sanitizePayload_congr : ∀ {v w : Value ν}, Agrees lower v w →
    sanitizePayload lower v = sanitizePayload lower w
  | _, _, .null     => rfl
  | _, _, .bool _   => rfl
  | _, _, .number _ => rfl
  | _, _, .text _   => rfl
  | _, _, .array h  => by rw [sanitizePayload, sanitizePayload, sanitizeItems_congr h]
  | _, _, .object h => by rw [sanitizePayload, sanitizePayload, sanitizeFields_congr h]

lemma sanitizeItems_congr : ∀ {vs ws : List (Value ν)}, AgreesItems lower vs ws →
    sanitizeItems lower vs = sanitizeItems lower ws
  | _, _, .nil       => rfl
  | _, _, .cons h hs => by
    rw [sanitizeItems, sanitizeItems, sanitizePayload_congr h, sanitizeItems_congr hs]

lemma sanitizeFields_congr : ∀ {fs gs : List (String × Value ν)}, AgreesFields lower fs gs →
    sanitizeFields lower fs = sanitizeFields lower gs
  | _, _, .nil                 => rfl
  | _, _, .secret v w hkey hs  => by
    rw [sanitizeFields, sanitizeFields, if_pos hkey, if_pos hkey, sanitizeFields_congr hs]
  | _, _, .plain hkey h hs     => by
    rw [sanitizeFields, sanitizeFields, sanitizePayload_congr h, sanitizeFields_congr hs]

end

mutual

/-- Whatever lies outside the secrets can be told from the result. -/
theorem agrees_of_sanitizePayload_eq : ∀ v w : Value ν,
    sanitizePayload lower v = sanitizePayload lower w → Agrees lower v w
  | .null, w, h          => by cases w <;> cases h; exact .null
  | .bool b, w, h        => by cases w <;> cases h; exact .bool b
  | .number n, w, h      => by cases w <;> cases h; exact .number n
  | .text s, w, h        => by cases w <;> cases h; exact .text s
  | .array items, w, h   => by
    cases w with
    | array others =>
      rw [sanitizePayload, sanitizePayload, Value.array.injEq] at h
      exact .array (agreesItems_of_eq items others h)
    | _ => cases h
  | .object fields, w, h => by
    cases w with
    | object others =>
      rw [sanitizePayload, sanitizePayload, Value.object.injEq] at h
      exact .object (agreesFields_of_eq fields others h)
    | _ => cases h

lemma agreesItems_of_eq : ∀ vs ws : List (Value ν),
    sanitizeItems lower vs = sanitizeItems lower ws → AgreesItems lower vs ws
  | [], [], _            => .nil
  | [], _ :: _, h        => by cases h
  | _ :: _, [], h        => by cases h
  | v :: vs, w :: ws, h  => by
    rw [sanitizeItems, sanitizeItems, List.cons.injEq] at h
    exact .cons (agrees_of_sanitizePayload_eq v w h.1) (agreesItems_of_eq vs ws h.2)

lemma agreesFields_of_eq : ∀ fs gs : List (String × Value ν),
    sanitizeFields lower fs = sanitizeFields lower gs → AgreesFields lower fs gs
  | [], [], _                       => .nil
  | [], _ :: _, h                   => by cases h
  | _ :: _, [], h                   => by cases h
  | (k, v) :: fs, (l, w) :: gs, h => by
    rw [sanitizeFields, sanitizeFields, List.cons.injEq, Prod.mk.injEq] at h
    obtain ⟨⟨rfl, hvalue⟩, hrest⟩ := h
    have hs := agreesFields_of_eq fs gs hrest
    by_cases hkey : Secret lower k
    · exact .secret v w hkey hs
    · rw [if_neg hkey, if_neg hkey] at hvalue
      exact .plain hkey (agrees_of_sanitizePayload_eq v w hvalue) hs

end

mutual

/-- A value without secrets is left as it is. -/
theorem sanitizePayload_of_redacted : ∀ {v : Value ν}, Redacted lower v →
    sanitizePayload lower v = v
  | .null, _          => rfl
  | .bool _, _        => rfl
  | .number _, _      => rfl
  | .text _, _        => rfl
  | .array items, h   => by
    rw [sanitizePayload, sanitizeItems_of_redacted fun v hv key u hu => h key u (.item hv hu)]
  | .object fields, h => by
    rw [sanitizePayload, sanitizeFields_of_redacted (fun f hf => h f.1 f.2 (.here hf))
      fun f hf key u hu => h key u (.field hf hu)]

lemma sanitizeItems_of_redacted : ∀ {items : List (Value ν)}, (∀ v ∈ items, Redacted lower v) →
    sanitizeItems lower items = items
  | [], _         => rfl
  | v :: items, h => by
    rw [sanitizeItems, sanitizePayload_of_redacted (h v List.mem_cons_self),
      sanitizeItems_of_redacted fun w hw => h w (List.mem_cons_of_mem v hw)]

lemma sanitizeFields_of_redacted : ∀ {fields : List (String × Value ν)},
    (∀ f ∈ fields, Secret lower f.1 → f.2 = redacted) → (∀ f ∈ fields, Redacted lower f.2) →
    sanitizeFields lower fields = fields
  | [], _, _                       => rfl
  | (k, v) :: fields, hsecret, h => by
    have hrest := sanitizeFields_of_redacted (fun f hf => hsecret f (List.mem_cons_of_mem _ hf))
      fun f hf => h f (List.mem_cons_of_mem _ hf)
    rw [sanitizeFields, hrest]
    by_cases hkey : Secret lower k
    · have hvalue : v = redacted := hsecret (k, v) List.mem_cons_self hkey
      rw [if_pos hkey, hvalue]
    · rw [if_neg hkey, sanitizePayload_of_redacted (h (k, v) List.mem_cons_self)]

end

/-- The result is the only value without secrets that agrees with the payload. -/
theorem eq_sanitizePayload_iff {v w : Value ν} :
    w = sanitizePayload lower v ↔ Redacted lower w ∧ Agrees lower v w := by
  constructor
  · rintro rfl
    exact ⟨redacted_sanitizePayload v, agrees_sanitizePayload v⟩
  · rintro ⟨hredacted, hagrees⟩
    rw [sanitizePayload_congr hagrees, sanitizePayload_of_redacted hredacted]

/-- Redaction replaces what stands under secret keys at every depth, and that alone; it does nothing
more when repeated; and what is stored of two payloads is the same when they differ inside secrets
at most. -/
theorem sanitizePayload_noninterference (lower : String → String) (spell : ν → List Char)
    (sha256 : String → String) :
    (∀ v : Value ν,
      (∀ key w, HasField key w (sanitizePayload lower v) → Secret lower key →
        w = .text "[REDACTED]") ∧
      Agrees lower v (sanitizePayload lower v) ∧
      sanitizePayload lower (sanitizePayload lower v) = sanitizePayload lower v) ∧
    ∀ v w : Value ν, Agrees lower v w →
      sanitizePayload lower v = sanitizePayload lower w ∧
      recordPayload lower spell sha256 v = recordPayload lower spell sha256 w := by
  constructor
  · intro v
    exact ⟨redacted_sanitizePayload v, agrees_sanitizePayload v,
      sanitizePayload_of_redacted (redacted_sanitizePayload v)⟩
  · intro v w h
    have hsame := sanitizePayload_congr h
    refine ⟨hsame, ?_⟩
    rw [recordPayload, recordPayload, hsame]

/-- A charge by card, with what its security code is reported as. -/
def cardPayload (cvv : Value ℤ) : Value ℤ :=
  .object [("event_id", .text "evt_1"), ("amount", .number 25),
    ("cards", .array [.object [("brand", .text "visa"), ("CVV", cvv)]])]

/-- The code leaves no trace, be it a text or an object. -/
theorem sanitizePayload_noninterference_card :
    cardPayload (.text "123") ≠ cardPayload (.object [("digits", .number 987)]) ∧
    recordPayload String.toLower spellInt id (cardPayload (.text "123")) =
      recordPayload String.toLower spellInt id
        (cardPayload (.object [("digits", .number 987)])) := by
  refine ⟨by simp [cardPayload], ?_⟩
  have hagrees : Agrees String.toLower (cardPayload (.text "123"))
      (cardPayload (.object [("digits", .number 987)])) := by
    refine .object (.plain (by decide +kernel) (.text _) (.plain (by decide +kernel) (.number _)
      (.plain (by decide +kernel) (.array (.cons (.object ?_) .nil)) .nil)))
    exact .plain (by decide +kernel) (.text _) (.secret _ _ (by decide +kernel) .nil)
  exact ((sanitizePayload_noninterference String.toLower spellInt id).2 _ _ hagrees).2

end

end AgentPay
