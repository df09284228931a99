import AgentPay.Control
import AgentPay.Support.Json

/-!
# Fingerprints

`request_fingerprint` and `ApprovalBinding.digest` down to the text that is hashed: what
`model_dump(mode="json")` and the payload of a binding hold, in the order of the source, and
`json.dumps` with ordered keys and without blanks. Ids are UUIDs here and amounts the text that came
in. What validation asks of the texts plays no part and is left out: bodies are told apart whether
they are valid or not.
-/

namespace AgentPay

open Support

namespace Spelled

/-! ### UUIDs -/

/-- `uuid.UUID` -/
abbrev Uuid := Fin (16 ^ 32)

/-- `str(uuid)`: groups of hexadecimal digits. -/
def Uuid.str (u : Uuid) : String :=
  let hex := hexDigits 32 u
  String.ofList (hex.take 8 ++ '-' :: ((hex.drop 8).take 4 ++ '-' :: ((hex.drop 12).take 4 ++
    '-' :: ((hex.drop 16).take 4 ++ '-' :: hex.drop 20))))

/-- The digits are what is left without the hyphens. -/
lemma Uuid.filter_str (u : Uuid) : u.str.toList.filter (· ≠ '-') = hexDigits 32 u := by
  have hkept {l : List Char} (h : ∀ c ∈ l, c ∈ hexDigits 32 u) : l.filter (· ≠ '-') = l := by
    have hdigit : ∀ d : Fin 16, Nat.digitChar d ≠ '-' := by decide
    rw [List.filter_eq_self]
    intro c hc
    obtain ⟨d, rfl⟩ := mem_hexDigits (h c hc)
    exact decide_eq_true (hdigit d)
  have hgroup (m n : ℕ) : (((hexDigits 32 u).drop m).take n).filter (· ≠ '-') =
      ((hexDigits 32 u).drop m).take n :=
    hkept fun c hc => List.mem_of_mem_drop (List.mem_of_mem_take hc)
  have hhead : ((hexDigits 32 u).take 8).filter (· ≠ '-') = (hexDigits 32 u).take 8 :=
    hkept fun c hc => List.mem_of_mem_take hc
  have htail : ((hexDigits 32 u).drop 20).filter (· ≠ '-') = (hexDigits 32 u).drop 20 :=
    hkept fun c hc => List.mem_of_mem_drop hc
  have hjoin (m n : ℕ) : ((hexDigits 32 u).drop m).take n ++ (hexDigits 32 u).drop (m + n) =
      (hexDigits 32 u).drop m := by
    rw [← List.drop_drop, List.take_append_drop]
  have hhyphen (l : List Char) : ('-' :: l).filter (· ≠ '-') = l.filter (· ≠ '-') := by simp
  rw [str, String.toList_ofList, List.filter_append, hhyphen, List.filter_append, hhyphen,
    List.filter_append, hhyphen, List.filter_append, hhyphen, hhead, hgroup, hgroup, hgroup, htail,
    hjoin 16 4, hjoin 12 4, hjoin 8 4, List.take_append_drop]

lemma Uuid.str_injective : Function.Injective Uuid.str := by
  intro u v h
  have hdigits : hexDigits 32 u = hexDigits 32 v := by rw [← filter_str, h, filter_str]
  ext
  rw [← ofHexDigits_hexDigits u.isLt, hdigits, ofHexDigits_hexDigits v.isLt]

/-! ### Request bodies -/

/-- `Money` -/
@[ext] structure Money where
  value : String
  currency : String
  deriving DecidableEq, Repr

/-- `Merchant` -/
@[ext] structure Merchant where
  name : String
  domain : Option String
  category : Option String
  deriving DecidableEq, Repr

/-- `PaymentItem` -/
@[ext] structure PaymentItem where
  name : String
  quantity : ℤ
  unitPrice : String
  deriving DecidableEq, Repr

/-- `AuthorizationEvidence` -/
@[ext] structure AuthorizationEvidence where
  evidenceId : String
  issuer : String
  evidenceType : String := "ATF"
  delegationId : Option String := none
  scope : List String := ["PAYMENT"]
  maxAmount : Option String := none
  currency : Option String := none
  expiresAt : Option String := none
  digest : Option String := none
  version : Option String := none
  signedAssertion : Option String := none
  deriving DecidableEq, Repr

/-- `CreatePayment` -/
@[ext] structure CreatePayment where
  agentId : Uuid
  accountId : Uuid
  policyId : Option Uuid := none
  budgetId : Option Uuid := none
  merchant : Option Merchant := none
  amount : Money
  purpose : String
  items : List PaymentItem := []
  authorizationEvidence : Option AuthorizationEvidence := none
  deriving DecidableEq, Repr

/-- A text or `null`. -/
def text? : Option String → Value ℤ := .ofOption .text

/-- A UUID as text. -/
def uuid (u : Uuid) : Value ℤ := .text u.str

def Money.modelDump (m : Money) : Value ℤ :=
  .object [("value", .text m.value), ("currency", .text m.currency)]

def Merchant.modelDump (m : Merchant) : Value ℤ :=
  .object [("name", .text m.name), ("domain", text? m.domain), ("category", text? m.category)]

def PaymentItem.modelDump (i : PaymentItem) : Value ℤ :=
  .object [("name", .text i.name), ("quantity", .number i.quantity),
    ("unit_price", .text i.unitPrice)]

def AuthorizationEvidence.modelDump (e : AuthorizationEvidence) : Value ℤ :=
  .object
    [("evidence_id", .text e.evidenceId),
     ("issuer", .text e.issuer),
     ("evidence_type", .text e.evidenceType),
     ("delegation_id", text? e.delegationId),
     ("scope", .array (e.scope.map .text)),
     ("max_amount", text? e.maxAmount),
     ("currency", text? e.currency),
     ("expires_at", text? e.expiresAt),
     ("digest", text? e.digest),
     ("version", text? e.version),
     ("signed_assertion", text? e.signedAssertion)]

/-- `model_dump(mode="json")` -/
def CreatePayment.modelDump (r : CreatePayment) : Value ℤ :=
  .object
    [("agent_id", uuid r.agentId),
     ("account_id", uuid r.accountId),
     ("policy_id", .ofOption uuid r.policyId),
     ("budget_id", .ofOption uuid r.budgetId),
     ("merchant", .ofOption Merchant.modelDump r.merchant),
     ("amount", r.amount.modelDump),
     ("purpose", .text r.purpose),
     ("items", .array (r.items.map PaymentItem.modelDump)),
     ("authorization_evidence", .ofOption AuthorizationEvidence.modelDump r.authorizationEvidence)]

/-- `request_fingerprint` -/
def requestFingerprint (sha256 : String → String) (request : CreatePayment) : String :=
  sha256 (request.modelDump.canonical spellInt)

/-! ### Approval bindings -/

/-- `approval.ApprovalBinding`, over any kind of amount. -/
structure ApprovalBinding (δ : Type) where
  paymentRequestId : String
  accountId : String
  agentId : String
  amount : δ
  currency : String
  merchantReference : Option String
  policyVersionId : Option String
  authorizationEvidenceId : Option String
  deriving DecidableEq, Repr

section

variable {δ : Type} (str : δ → String) (upper : String → String)

/-- The payload of the binding; `str` spells the amount. -/
def ApprovalBinding.payload (b : ApprovalBinding δ) : Value ℤ :=
  .object
    [("payment_request_id", .text b.paymentRequestId),
     ("account_id", .text b.accountId),
     ("agent_id", .text b.agentId),
     ("amount", .text (str b.amount)),
     ("currency", .text (upper b.currency)),
     ("merchant_reference", text? b.merchantReference),
     ("policy_version_id", text? b.policyVersionId),
     ("authorization_evidence_id", text? b.authorizationEvidenceId)]

/-- `ApprovalBinding.digest` -/
def ApprovalBinding.digest (sha256 : String → String) (b : ApprovalBinding δ) : String :=
  sha256 ((b.payload str upper).canonical spellInt)

end

/-! ### Dumps tell the body -/

open Value

lemma tells_uuid : Tells uuid := tells_text.comp Uuid.str_injective

lemma tells_uuid? : Tells (ofOption uuid) :=
  tells_uuid.ofOption fun u h => by simp [uuid, sortKeys] at h

lemma tells_text? : Tells text? := tells_text.ofOption fun a h => by cases h

lemma Money.tells : Tells Money.modelDump := by
  intro a b h
  rw [modelDump, modelDump] at h
  have hfields := fields_eq_of_sortKeys h (by simp) (by simp)
  simp only [List.map_cons, List.map_nil, List.cons.injEq, and_true] at hfields
  obtain ⟨hvalue, hcurrency⟩ := hfields
  ext1
  · exact tells_text hvalue
  · exact tells_text hcurrency

lemma Merchant.tells : Tells Merchant.modelDump := by
  intro a b h
  rw [modelDump, modelDump] at h
  have hfields := fields_eq_of_sortKeys h (by simp) (by simp)
  simp only [List.map_cons, List.map_nil, List.cons.injEq, and_true] at hfields
  obtain ⟨hname, hdomain, hcategory⟩ := hfields
  ext1
  · exact tells_text hname
  · exact tells_text? hdomain
  · exact tells_text? hcategory

lemma PaymentItem.tells : Tells PaymentItem.modelDump := by
  intro a b h
  rw [modelDump, modelDump] at h
  have hfields := fields_eq_of_sortKeys h (by simp) (by simp)
  simp only [List.map_cons, List.map_nil, List.cons.injEq, and_true] at hfields
  obtain ⟨hname, hquantity, hprice⟩ := hfields
  ext1
  · exact tells_text hname
  · exact tells_number hquantity
  · exact tells_text hprice

lemma AuthorizationEvidence.tells : Tells AuthorizationEvidence.modelDump := by
  intro a b h
  rw [modelDump, modelDump] at h
  have hfields := fields_eq_of_sortKeys h (by simp) (by simp)
  simp only [List.map_cons, List.map_nil, List.cons.injEq, and_true] at hfields
  obtain ⟨hid, hissuer, htype, hdelegation, hscope, hmax, hcurrency, hexpires, hdigest, hversion,
    hsigned⟩ := hfields
  ext1
  · exact tells_text hid
  · exact tells_text hissuer
  · exact tells_text htype
  · exact tells_text? hdelegation
  · exact tells_text.array hscope
  · exact tells_text? hmax
  · exact tells_text? hcurrency
  · exact tells_text? hexpires
  · exact tells_text? hdigest
  · exact tells_text? hversion
  · exact tells_text? hsigned

/-- Bodies with one dump up to the order of keys are equal. -/
theorem CreatePayment.tells : Tells CreatePayment.modelDump := by
  intro a b h
  rw [modelDump, modelDump] at h
  have hfields := fields_eq_of_sortKeys h (by simp) (by simp)
  simp only [List.map_cons, List.map_nil, List.cons.injEq, and_true] at hfields
  obtain ⟨hagent, haccount, hpolicy, hbudget, hmerchant, hamount, hpurpose, hitems, hevidence⟩ :=
    hfields
  ext1
  · exact tells_uuid hagent
  · exact tells_uuid haccount
  · exact tells_uuid? hpolicy
  · exact tells_uuid? hbudget
  · exact Merchant.tells.ofOption (fun _ h => by cases h) hmerchant
  · exact Money.tells hamount
  · exact tells_text hpurpose
  · exact PaymentItem.tells.array hitems
  · exact AuthorizationEvidence.tells.ofOption (fun _ h => by cases h) hevidence

section

variable {δ : Type} {str : δ → String} {upper : String → String}

/-- The payload of a binding is told by its fields, the amount as it is spelled and the currency in
upper case. -/
theorem ApprovalBinding.payload_inj {a b : ApprovalBinding δ} :
    (a.payload str upper).sortKeys = (b.payload str upper).sortKeys ↔
      a.paymentRequestId = b.paymentRequestId ∧ a.accountId = b.accountId ∧
      a.agentId = b.agentId ∧ str a.amount = str b.amount ∧
      upper a.currency = upper b.currency ∧ a.merchantReference = b.merchantReference ∧
      a.policyVersionId = b.policyVersionId ∧
      a.authorizationEvidenceId = b.authorizationEvidenceId := by
  constructor
  · intro h
    rw [payload, payload] at h
    have hfields := fields_eq_of_sortKeys h (by simp) (by simp)
    simp only [List.map_cons, List.map_nil, List.cons.injEq, and_true] at hfields
    obtain ⟨hrequest, haccount, hagent, hamount, hcurrency, hmerchant, hversion, hevidence⟩ :=
      hfields
    exact ⟨tells_text hrequest, tells_text haccount, tells_text hagent, tells_text hamount,
      tells_text hcurrency, tells_text? hmerchant, tells_text? hversion, tells_text? hevidence⟩
  · rintro ⟨hrequest, haccount, hagent, hamount, hcurrency, hmerchant, hversion, hevidence⟩
    rw [payload, payload, hrequest, haccount, hagent, hamount, hcurrency, hmerchant, hversion,
      hevidence]

end

/-! ### What a digest tells -/

/-- Where SHA-256 does not collide, requests with one fingerprint are equal in every field, and
bindings with one digest are equal in all eight, the amount as it is spelled and the currency in
upper case. -/
theorem digests_injective {δ : Type} (sha256 : String → String)
    (hsha256 : Function.Injective sha256) (str : δ → String) (upper : String → String) :
    (∀ r s : CreatePayment, requestFingerprint sha256 r = requestFingerprint sha256 s ↔ r = s) ∧
    ∀ a b : ApprovalBinding δ, a.digest str upper sha256 = b.digest str upper sha256 ↔
      a.paymentRequestId = b.paymentRequestId ∧ a.accountId = b.accountId ∧
      a.agentId = b.agentId ∧ str a.amount = str b.amount ∧
      upper a.currency = upper b.currency ∧ a.merchantReference = b.merchantReference ∧
      a.policyVersionId = b.policyVersionId ∧
      a.authorizationEvidenceId = b.authorizationEvidenceId := by
  have hcanonical (v w : Value ℤ) :
      sha256 (v.canonical spellInt) = sha256 (w.canonical spellInt) ↔ v.sortKeys = w.sortKeys := by
    rw [hsha256.eq_iff]
    exact canonical_inj .int
  constructor
  · intro r s
    rw [requestFingerprint, requestFingerprint, hcanonical]
    constructor
    · intro h
      exact CreatePayment.tells h
    · rintro rfl
      rfl
  · intro a b
    rw [ApprovalBinding.digest, ApprovalBinding.digest, hcanonical, ApprovalBinding.payload_inj]

theorem digests_injective_id :
    (∀ r s : CreatePayment, requestFingerprint id r = requestFingerprint id s ↔ r = s) ∧
    ∀ a b : ApprovalBinding AgentPay.Decimal,
      a.digest Decimal.text upper id = b.digest Decimal.text upper id ↔
        a.paymentRequestId = b.paymentRequestId ∧ a.accountId = b.accountId ∧
        a.agentId = b.agentId ∧ a.amount.text = b.amount.text ∧
        upper a.currency = upper b.currency ∧ a.merchantReference = b.merchantReference ∧
        a.policyVersionId = b.policyVersionId ∧
        a.authorizationEvidenceId = b.authorizationEvidenceId :=
  digests_injective id Function.injective_id Decimal.text upper

end Spelled

/-! ### The digests of the state -/

mutual

/-- A dump as a JSON value. -/
def Json.value : Json → Value ℤ
  | .null          => .null
  | .text s        => .text s
  | .number n      => .number n
  | .array items   => .array (Json.valueItems items)
  | .object fields => .object (Json.valueFields fields)

def Json.valueItems : List Json → List (Value ℤ)
  | []            => []
  | item :: items => Json.value item :: Json.valueItems items

def Json.valueFields : List (String × Json) → List (String × Value ℤ)
  | []                 => []
  | (key, j) :: fields => (key, Json.value j) :: Json.valueFields fields

end

mutual

lemma Json.value_inj : ∀ {i j : Json}, i.value = j.value → i = j
  | .null, j, h          => by cases j <;> cases h; rfl
  | .text _, j, h        => by cases j <;> cases h; rfl
  | .number _, j, h      => by cases j <;> cases h; rfl
  | .array items, j, h   => by
    cases j with
    | array others =>
      rw [value, value, Value.array.injEq] at h
      rw [valueItems_inj h]
    | _ => cases h
  | .object fields, j, h => by
    cases j with
    | object others =>
      rw [value, value, Value.object.injEq] at h
      rw [valueFields_inj h]
    | _ => cases h

lemma Json.valueItems_inj : ∀ {is js : List Json}, valueItems is = valueItems js → is = js
  | [], [], _           => rfl
  | [], _ :: _, h       => by cases h
  | _ :: _, [], h       => by cases h
  | i :: is, j :: js, h => by
    rw [valueItems, valueItems, List.cons.injEq] at h
    rw [value_inj h.1, valueItems_inj h.2]

lemma Json.valueFields_inj : ∀ {fs gs : List (String × Json)},
    valueFields fs = valueFields gs → fs = gs
  | [], [], _                     => rfl
  | [], _ :: _, h                 => by cases h
  | _ :: _, [], h                 => by cases h
  | (k, i) :: fs, (l, j) :: gs, h => by
    rw [valueFields, valueFields, List.cons.injEq, Prod.mk.injEq] at h
    obtain ⟨⟨rfl, hvalue⟩, hrest⟩ := h
    rw [value_inj hvalue, valueFields_inj hrest]

end

/-- `digest` hashes the text of a dump, whose keys are in order already. -/
def Env.HashesText (env : Env) : Prop :=
  ∀ j : Json, env.digest j = env.sha256 (String.ofList (j.value.render spellInt []))

/-- Dumps are told apart by their digests as soon as SHA-256 does not collide. -/
theorem Env.HashesText.injective {env : Env} (h : env.HashesText)
    (hsha256 : Function.Injective env.sha256) : Function.Injective env.digest := by
  intro i j hij
  rw [h, h] at hij
  have htext := String.ofList_injective (hsha256 hij)
  exact Json.value_inj (Value.render_injective .int [] htext)

/-- A binding with its ids as text. -/
def ApprovalBinding.spelled (b : ApprovalBinding) : Spelled.ApprovalBinding Decimal where
  paymentRequestId := toString b.paymentRequestId
  accountId := b.accountId
  agentId := b.agentId
  amount := b.amount
  currency := b.currency
  merchantReference := b.merchantReference
  policyVersionId := b.policyVersionId.map toString
  authorizationEvidenceId := b.authorizationEvidenceId.map toString

lemma Json.value_ofText? (s : Option String) :
    (Json.ofText? s).value = (Spelled.text? s).sortKeys := by
  cases s with
  | none   => simp [ofText?, value, Spelled.text?, Value.ofOption, Value.sortKeys]
  | some s => simp [ofText?, value, Spelled.text?, Value.ofOption, Value.sortKeys]

/-- The payload of a binding lists its keys in order. -/
lemma ApprovalBinding.value_payload (b : ApprovalBinding) :
    b.payload.value = (b.spelled.payload Decimal.text upper).sortKeys := by
  simp [payload, spelled, Spelled.ApprovalBinding.payload, Json.value, Json.valueFields,
    Json.value_ofText?, Value.sortKeys, Value.sortFields, List.orderedInsert]

theorem ApprovalBinding.digest_eq_spelled {env : Env} (h : env.HashesText) (b : ApprovalBinding) :
    b.digest env = b.spelled.digest Decimal.text upper env.sha256 := by
  rw [digest, h, value_payload]
  rfl

end AgentPay
