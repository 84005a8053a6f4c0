import YandexPay.Library.HexDigest
import YandexPay.Library.PyDecimalText

/-!
# Requests to Uniteller and their signatures

The requests of `lib/interactions/psp/uniteller/client.py`, up to the form that is posted. A
signature covers the values of the fields in the order in which they were set, and neither their
names nor the operation. `signature_separates` says what a signature determines all the same.
-/

set_option autoImplicit false
set_option relaxedAutoImplicit false

namespace YandexPay.Psp.Uniteller

open PyDecimal

/-! ### Requests -/

abbrev Fields := List (String × String)

structure UnitellerCredentials where
  login : String
  password : String
  gatewayMerchantId : String
  sendReceipt : Option Bool

inductive Hash
  | md5
  | sha256
  deriving DecidableEq

/-- The addresses of one operation, without and with a receipt. -/
structure Urls where
  url : String
  receiptUrl : String

/-- The client: the digests of its hash functions, its addresses, and the encoding of cheques and
browser data. -/
structure Client (Cheque BrowserData : Type*) where
  hash : Hash → String → String
  chargeUrls : Urls
  finish3dsUrls : Urls
  confirmUrls : Urls
  refundUrls : Urls
  encodeCheque : Cheque → String
  encodeBrowserData : BrowserData → String

structure PostRequest where
  interactionMethod : String
  url : String
  data : Fields
  deriving DecidableEq

structure ChargeArgs (Cheque BrowserData : Type*) where
  credentials : UnitellerCredentials
  orderId : String
  paymentToken : String
  amount : Decimal
  userIp : String
  challengeNotificationUrl : String
  browserData : BrowserData
  email : Option String
  hold : Bool
  cheque : Option Cheque

def UnitellerCredentials.receipt (credentials : UnitellerCredentials) : Bool :=
  credentials.sendReceipt.getD false

def Urls.select (urls : Urls) (credentials : UnitellerCredentials) : String :=
  if credentials.receipt then urls.receiptUrl else urls.url

variable {Cheque BrowserData : Type*} (client : Client Cheque BrowserData)

/-- The fields that are not signed by default. -/
def skippedFields : List String :=
  ["BrowserInfo", "ClientIp", "Language", "ReceiptSignature", "Receipt"]

def signedFields (skippedFields : List String) (data : Fields) : Fields :=
  data.filter fun field ↦ !skippedFields.contains field.1

/-- `_signature` -/
def signature (data : Fields) (password : String) (hashFunc : Hash) (delimiter : String)
    (skippedFields : List String) : String :=
  HexDigest.signTexts (client.hash hashFunc) delimiter
    ((signedFields skippedFields data).map Prod.snd ++ [password])

def receiptSignatureData (args : ChargeArgs Cheque BrowserData) (cheque : Cheque) : Fields :=
  [("ShopID", args.credentials.gatewayMerchantId), ("OrderID", args.orderId),
    ("Subtotal", args.amount.str), ("Receipt", client.encodeCheque cheque)]

/-- The cheque, when the credentials ask for a receipt. -/
def ChargeArgs.sentCheque (args : ChargeArgs Cheque BrowserData) : Option Cheque :=
  if args.credentials.receipt then args.cheque else none

def chargeData (args : ChargeArgs Cheque BrowserData) : Fields :=
  [("ShopID", args.credentials.gatewayMerchantId), ("OrderID", args.orderId),
    ("Subtotal", args.amount.str), ("PaymentToken", args.paymentToken), ("Currency", "RUB"),
    ("TermUrl", args.challengeNotificationUrl),
    ("BrowserInfo", client.encodeBrowserData args.browserData), ("ClientIp", args.userIp),
    ("IsPreAuth", if args.hold then "1" else "0")] ++
  (match args.sentCheque with
    | some cheque =>
      [("Receipt", client.encodeCheque cheque),
        ("ReceiptSignature", signature client (receiptSignatureData client args cheque)
          args.credentials.password .sha256 "&" [])]
    | none => []) ++
  (match args.email with
    | some email => [("Email", email)]
    | none => [])

def confirmData (credentials : UnitellerCredentials) (orderId : String)
    (amount : Option Decimal) : Fields :=
  [("ShopID", credentials.gatewayMerchantId), ("OrderID", orderId)] ++
  (match amount.filter Decimal.truthy with
    | some amount => [("Subtotal", amount.str)]
    | none => [])

def refundData (credentials : UnitellerCredentials) (orderId : String)
    (amount : Option Decimal) : Fields :=
  [("OrderID", orderId), ("Shop_ID", credentials.gatewayMerchantId), ("Format", "3")] ++
  (match amount.filter Decimal.truthy with
    | some amount => [("Subtotal_P", amount.str)]
    | none => [])

def finish3dsData (credentials : UnitellerCredentials) (paymentAttemptId paRes : String) : Fields :=
  [("ShopID", credentials.gatewayMerchantId), ("PaymentAttemptID", paymentAttemptId),
    ("PaRes", paRes)]

/-- The data with its signature behind it. -/
def sign (data : Fields) (password : String) (hashFunc : Hash) (delimiter : String) : Fields :=
  data ++ [("Signature", signature client data password hashFunc delimiter skippedFields)]

def charge (args : ChargeArgs Cheque BrowserData) : PostRequest where
  interactionMethod := "charge"
  url := client.chargeUrls.select args.credentials
  data := sign client (chargeData client args) args.credentials.password .md5 ""

def confirm (credentials : UnitellerCredentials) (orderId : String) (amount : Option Decimal) :
    PostRequest where
  interactionMethod := "confirm"
  url := client.confirmUrls.select credentials
  data := sign client (confirmData credentials orderId amount) credentials.password .md5 ""

def refund (credentials : UnitellerCredentials) (orderId : String) (amount : Option Decimal) :
    PostRequest where
  interactionMethod := "refund"
  url := client.refundUrls.select credentials
  data := sign client (refundData credentials orderId amount) credentials.password .sha256 "&"

def finish3ds (credentials : UnitellerCredentials) (paymentAttemptId paRes : String) :
    PostRequest where
  interactionMethod := "finish_3ds"
  url := client.finish3dsUrls.select credentials
  data := sign client (finish3dsData credentials paymentAttemptId paRes) credentials.password .md5
    ""

/-! ### Signatures of operations -/

/-- A call of one of the operations that sign their request. -/
inductive Operation (Cheque BrowserData : Type*)
  | charge (args : ChargeArgs Cheque BrowserData)
  | confirm (credentials : UnitellerCredentials) (orderId : String) (amount : Option Decimal)
  | refund (credentials : UnitellerCredentials) (orderId : String) (amount : Option Decimal)
  | finish3ds (credentials : UnitellerCredentials) (paymentAttemptId paRes : String)

inductive OperationKind
  | charge
  | confirm
  | refund
  | finish3ds
  deriving DecidableEq

namespace Operation

def kind : Operation Cheque BrowserData → OperationKind
  | .charge _ => .charge
  | .confirm .. => .confirm
  | .refund .. => .refund
  | .finish3ds .. => .finish3ds

def credentials : Operation Cheque BrowserData → UnitellerCredentials
  | .charge args => args.credentials
  | .confirm credentials .. => credentials
  | .refund credentials .. => credentials
  | .finish3ds credentials .. => credentials

def hashFunc : Operation Cheque BrowserData → Hash
  | .refund .. => .sha256
  | _ => .md5

def delimiter : Operation Cheque BrowserData → String
  | .refund .. => "&"
  | _ => ""

/-- The data of the request before its signature is added. -/
def data : Operation Cheque BrowserData → Fields
  | .charge args => chargeData client args
  | .confirm credentials orderId amount => confirmData credentials orderId amount
  | .refund credentials orderId amount => refundData credentials orderId amount
  | .finish3ds credentials paymentAttemptId paRes =>
    finish3dsData credentials paymentAttemptId paRes

def request : Operation Cheque BrowserData → PostRequest
  | .charge args => Uniteller.charge client args
  | .confirm credentials orderId amount => Uniteller.confirm client credentials orderId amount
  | .refund credentials orderId amount => Uniteller.refund client credentials orderId amount
  | .finish3ds credentials paymentAttemptId paRes =>
    Uniteller.finish3ds client credentials paymentAttemptId paRes

variable (op : Operation Cheque BrowserData)

/-- The fields that the signature covers. -/
def signed : Fields := signedFields skippedFields (op.data client)

/-- The texts whose digests are signed. -/
def signedTexts : List String := (op.signed client).map Prod.snd ++ [op.credentials.password]

/-- Everything that is hashed for the signature. -/
def hashedTexts : List String :=
  HexDigest.hashedTexts (client.hash op.hashFunc) op.delimiter (op.signedTexts client)

theorem request_data : (op.request client).data =
    op.data client ++ [("Signature", HexDigest.signTexts (client.hash op.hashFunc) op.delimiter
      (op.signedTexts client))] := by
  cases op <;> rfl

theorem data_ne_signature : ∀ field ∈ op.data client, field.1 ≠ "Signature" := by
  cases op with
  | charge args =>
    rw [data, chargeData]
    rcases args.sentCheque with _ | cheque <;> rcases args.email with _ | email <;> simp
  | confirm credentials orderId amount =>
    rw [data, confirmData]
    rcases amount.filter Decimal.truthy with _ | amount <;> simp
  | refund credentials orderId amount =>
    rw [data, refundData]
    rcases amount.filter Decimal.truthy with _ | amount <;> simp
  | finish3ds credentials paymentAttemptId paRes =>
    rw [data, finish3dsData]
    simp

/-- The value of a field that was set last and not before. -/
theorem lookup_last {data : Fields} {name value : String}
    (hdata : ∀ field ∈ data, field.1 ≠ name) :
    (data ++ [(name, value)]).lookup name = some value := by
  induction data with
  | nil => exact List.lookup_cons_self
  | cons field data ih =>
    obtain ⟨hfield, hrest⟩ := List.forall_mem_cons.mp hdata
    rw [List.cons_append, List.lookup_cons, beq_false_of_ne hfield.symm]
    exact ih hrest

theorem lookup_signature : (op.request client).data.lookup "Signature" =
    some (HexDigest.signTexts (client.hash op.hashFunc) op.delimiter (op.signedTexts client)) := by
  rw [request_data, lookup_last (data_ne_signature client op)]

/-- The names of the fields that an operation signs, the optional one last. -/
def fieldNames : OperationKind → List String
  | .charge =>
    ["ShopID", "OrderID", "Subtotal", "PaymentToken", "Currency", "TermUrl", "IsPreAuth", "Email"]
  | .confirm => ["ShopID", "OrderID", "Subtotal"]
  | .refund => ["OrderID", "Shop_ID", "Format", "Subtotal_P"]
  | .finish3ds => ["ShopID", "PaymentAttemptID", "PaRes"]

theorem signed_charge (args : ChargeArgs Cheque BrowserData) :
    (Operation.charge args).signed client =
      [("ShopID", args.credentials.gatewayMerchantId), ("OrderID", args.orderId),
        ("Subtotal", args.amount.str), ("PaymentToken", args.paymentToken), ("Currency", "RUB"),
        ("TermUrl", args.challengeNotificationUrl),
        ("IsPreAuth", if args.hold then "1" else "0")] ++
      (args.email.map fun email ↦ ("Email", email)).toList := by
  rw [signed, data, chargeData]
  rcases args.sentCheque with _ | cheque <;> rcases args.email with _ | email <;> rfl

theorem signed_confirm (credentials : UnitellerCredentials) (orderId : String)
    (amount : Option Decimal) :
    (Operation.confirm credentials orderId amount).signed client =
      [("ShopID", credentials.gatewayMerchantId), ("OrderID", orderId)] ++
      ((amount.filter Decimal.truthy).map fun amount ↦ ("Subtotal", amount.str)).toList := by
  rw [signed, data, confirmData]
  rcases amount.filter Decimal.truthy with _ | amount <;> rfl

theorem signed_refund (credentials : UnitellerCredentials) (orderId : String)
    (amount : Option Decimal) :
    (Operation.refund credentials orderId amount).signed client =
      [("OrderID", orderId), ("Shop_ID", credentials.gatewayMerchantId), ("Format", "3")] ++
      ((amount.filter Decimal.truthy).map fun amount ↦ ("Subtotal_P", amount.str)).toList := by
  rw [signed, data, refundData]
  rcases amount.filter Decimal.truthy with _ | amount <;> rfl

theorem signed_finish3ds (credentials : UnitellerCredentials) (paymentAttemptId paRes : String) :
    (Operation.finish3ds credentials paymentAttemptId paRes).signed client =
      [("ShopID", credentials.gatewayMerchantId), ("PaymentAttemptID", paymentAttemptId),
        ("PaRes", paRes)] := rfl

/-- The names of the signed fields follow from the operation and their count. -/
theorem signed_names : (op.signed client).map Prod.fst =
    (fieldNames op.kind).take (op.signed client).length := by
  cases op with
  | charge args =>
    rw [signed_charge]
    rcases args.email with _ | email <;> rfl
  | confirm credentials orderId amount =>
    rw [signed_confirm]
    rcases amount.filter Decimal.truthy with _ | amount <;> rfl
  | refund credentials orderId amount =>
    rw [signed_refund]
    rcases amount.filter Decimal.truthy with _ | amount <;> rfl
  | finish3ds credentials paymentAttemptId paRes => rfl

/-- Only a charge signs more than four fields. -/
theorem four_lt_length_signed_iff : 4 < (op.signed client).length ↔ op.kind = .charge := by
  cases op with
  | charge args =>
    rw [signed_charge]
    exact iff_of_true (by simp) rfl
  | confirm credentials orderId amount =>
    rw [signed_confirm]
    rcases amount.filter Decimal.truthy with _ | amount <;>
      exact iff_of_false (by simp) (by simp [kind])
  | refund credentials orderId amount =>
    rw [signed_refund]
    rcases amount.filter Decimal.truthy with _ | amount <;>
      exact iff_of_false (by simp) (by simp [kind])
  | finish3ds credentials paymentAttemptId paRes =>
    exact iff_of_false (by simp [signed_finish3ds]) (by simp [kind])

variable {client} {op op' : Operation Cheque BrowserData}

theorem delimiter_eq_of_hashFunc_eq (h : op.hashFunc = op'.hashFunc) :
    op.delimiter = op'.delimiter := by
  cases op <;> cases op' <;> first | rfl | exact nomatch h

theorem length_signed_eq (h : op.signedTexts client = op'.signedTexts client) :
    (op.signed client).length = (op'.signed client).length := by
  have hlength := congrArg List.length h
  simpa [signedTexts] using hlength

theorem signed_eq_of_kind (hkind : op.kind = op'.kind)
    (h : op.signedTexts client = op'.signedTexts client) :
    op.signed client = op'.signed client := by
  have hlength := length_signed_eq h
  have hnames : (op.signed client).map Prod.fst = (op'.signed client).map Prod.fst := by
    rw [signed_names, signed_names, hkind, hlength]
  have hvalues := (List.append_inj h (by rw [List.length_map, List.length_map, hlength])).1
  rw [← List.zip_unzip (op.signed client), ← List.zip_unzip (op'.signed client),
    List.unzip_eq_map, List.unzip_eq_map, hnames, hvalues]

/-- A confirmation with an amount and an ended 3-D Secure check with the same three values. -/
def Confused (op op' : Operation Cheque BrowserData) : Prop :=
  ∃ (credentials credentials' : UnitellerCredentials) (orderId : String) (amount : Decimal),
    op = .confirm credentials orderId (some amount) ∧ amount.truthy ∧
      op' = .finish3ds credentials' orderId amount.str ∧
        credentials.gatewayMerchantId = credentials'.gatewayMerchantId

theorem confused_of_signedTexts_eq {credentials credentials' : UnitellerCredentials}
    {orderId paymentAttemptId paRes : String} {amount : Option Decimal}
    (hop : op = .confirm credentials orderId amount)
    (hop' : op' = .finish3ds credentials' paymentAttemptId paRes)
    (h : op.signedTexts client = op'.signedTexts client) : Confused op op' := by
  rw [signedTexts, signedTexts, hop, hop', signed_confirm, signed_finish3ds] at h
  rcases hamount : amount.filter Decimal.truthy with _ | value
  · rw [hamount] at h
    exact absurd (congrArg List.length h) (by simp)
  · rw [hamount] at h
    simp only [Option.map_some, Option.toList_some, List.map_cons, List.map_nil, List.cons_append,
      List.nil_append, List.cons.injEq] at h
    obtain ⟨hshop, rfl, rfl, -, -⟩ := h
    obtain ⟨rfl, htruthy⟩ := Option.filter_eq_some_iff.mp hamount
    exact ⟨credentials, credentials', orderId, value, hop, htruthy, hop', hshop⟩

/-- The texts that a signature covers determine the operation, but for the confusion. -/
theorem kind_eq_of_signedTexts_eq (hhash : op.hashFunc = op'.hashFunc)
    (h : op.signedTexts client = op'.signedTexts client) :
    op.kind = op'.kind ∨ Confused op op' ∨ Confused op' op := by
  have hcharge : op.kind = .charge ↔ op'.kind = .charge := by
    rw [← four_lt_length_signed_iff client, ← four_lt_length_signed_iff client,
      length_signed_eq h]
  cases hop : op with
  | charge args =>
    rw [hop] at hcharge
    exact .inl (hcharge.mp rfl).symm
  | confirm credentials orderId amount =>
    cases hop' : op' with
    | charge args =>
      rw [hop, hop'] at hcharge
      exact absurd (hcharge.mpr rfl) (by simp [kind])
    | confirm credentials' orderId' amount' => exact .inl rfl
    | refund credentials' orderId' amount' =>
      rw [hop, hop'] at hhash
      exact nomatch hhash
    | finish3ds credentials' paymentAttemptId paRes =>
      rw [← hop, ← hop']
      exact .inr (.inl (confused_of_signedTexts_eq hop hop' h))
  | refund credentials orderId amount =>
    cases hop' : op' with
    | refund credentials' orderId' amount' => exact .inl rfl
    | _ =>
      rw [hop, hop'] at hhash
      exact nomatch hhash
  | finish3ds credentials paymentAttemptId paRes =>
    cases hop' : op' with
    | charge args =>
      rw [hop, hop'] at hcharge
      exact absurd (hcharge.mpr rfl) (by simp [kind])
    | confirm credentials' orderId' amount' =>
      rw [← hop, ← hop']
      exact .inr (.inr (confused_of_signedTexts_eq hop' hop h.symm))
    | refund credentials' orderId' amount' =>
      rw [hop, hop'] at hhash
      exact nomatch hhash
    | finish3ds credentials' paymentAttemptId' paRes' => exact .inl rfl

end Operation

/-! ### What a signature determines -/

def Hash.length : Hash → ℕ
  | .md5 => 32
  | .sha256 => 64

/-- The texts that are hashed for the signature of a receipt. -/
def receiptTexts (args : ChargeArgs Cheque BrowserData) (cheque : Cheque) : List String :=
  HexDigest.hashedTexts (client.hash .sha256) "&"
    ((receiptSignatureData client args cheque).map Prod.snd ++ [args.credentials.password])

variable {client}

theorem lookup_receiptSignature {args : ChargeArgs Cheque BrowserData} {cheque : Cheque}
    (hcheque : args.sentCheque = some cheque) :
    (charge client args).data.lookup "ReceiptSignature" =
      some (HexDigest.signTexts (client.hash .sha256) "&"
        ((receiptSignatureData client args cheque).map Prod.snd ++
          [args.credentials.password])) := by
  rw [charge, sign, chargeData, hcheque]
  rfl

/-- Two requests with one signature come from one operation and have the same signed fields, or one
is a confirmation with an amount and the other ends a 3-D Secure check with the same values; two
signatures of receipts that are equal sign the same fields. -/
theorem signature_separates {texts : Hash → Set String}
    (hhash : ∀ hashFunc, HexDigest.CollisionFree (client.hash hashFunc) hashFunc.length
      (texts hashFunc)) :
    (∀ op op' : Operation Cheque BrowserData,
      (∀ text ∈ op.hashedTexts client, text ∈ texts op.hashFunc) →
      (∀ text ∈ op'.hashedTexts client, text ∈ texts op'.hashFunc) →
      (op.request client).data.lookup "Signature" = (op'.request client).data.lookup "Signature" →
      op.kind = op'.kind ∧ op.signed client = op'.signed client ∨
        Operation.Confused op op' ∨ Operation.Confused op' op) ∧
    ∀ (args args' : ChargeArgs Cheque BrowserData) (cheque cheque' : Cheque),
      args.sentCheque = some cheque → args'.sentCheque = some cheque' →
      (∀ text ∈ receiptTexts client args cheque, text ∈ texts .sha256) →
      (∀ text ∈ receiptTexts client args' cheque', text ∈ texts .sha256) →
      (charge client args).data.lookup "ReceiptSignature" =
        (charge client args').data.lookup "ReceiptSignature" →
      receiptSignatureData client args cheque = receiptSignatureData client args' cheque' := by
  constructor
  · intro op op' htexts htexts' hsignature
    rw [Operation.lookup_signature, Operation.lookup_signature, Option.some.injEq] at hsignature
    have hfunc : op.hashFunc = op'.hashFunc := by
      have hlength := congrArg (fun text ↦ text.toList.length) hsignature
      rw [(hhash _).length_signTexts, (hhash _).length_signTexts] at hlength
      revert hlength
      cases op.hashFunc <;> cases op'.hashFunc <;> simp [Hash.length]
    have hdelimiter := Operation.delimiter_eq_of_hashFunc_eq hfunc
    rw [Operation.hashedTexts, ← hfunc, ← hdelimiter] at htexts'
    rw [← hfunc, ← hdelimiter] at hsignature
    have hsigned := (hhash op.hashFunc).signTexts_injective (List.concat_ne_nil _ _)
      (List.concat_ne_nil _ _) htexts htexts' hsignature
    rcases Operation.kind_eq_of_signedTexts_eq hfunc hsigned with hkind | hconfused
    · exact .inl ⟨hkind, Operation.signed_eq_of_kind hkind hsigned⟩
    · exact .inr hconfused
  · intro args args' cheque cheque' hcheque hcheque' htexts htexts' hsignature
    rw [lookup_receiptSignature hcheque, lookup_receiptSignature hcheque',
      Option.some.injEq] at hsignature
    have hsigned := (hhash .sha256).signTexts_injective (List.concat_ne_nil _ _)
      (List.concat_ne_nil _ _) htexts htexts' hsignature
    simp only [receiptSignatureData, List.map_cons, List.map_nil, List.cons_append, List.nil_append,
      List.cons.injEq] at hsigned
    obtain ⟨hshop, horder, hamount, hreceipt, -⟩ := hsigned
    rw [receiptSignatureData, receiptSignatureData, hshop, horder, hamount, hreceipt]

/-! ### Requests of a shop -/

def shop : UnitellerCredentials := ⟨"login-1", "secret", "shop-1", some true⟩

def tenRoubles : Decimal := .finite ⟨false, 1000, -2⟩

/-- The digests that sign the confirmation of an order without an amount, and the digest of the
joined ones. -/
def confirmDigests : List (String × String) :=
  let digests := [("shop-1", "85f3952d8af25eec1fc533d77b6bdb29"),
    ("order-1", "6e7f85a9d0fe9b5dfb504c6f2991d744"), ("secret", "5ebe2294ecd0e0f08eab7690d2a6ee69")]
  (HexDigest.join "" (digests.map Prod.snd), "f62427f1bdb2cbfb879b36a8e59bdb3b") :: digests

def digestTable : Hash → List (String × String)
  | .md5 => confirmDigests
  | .sha256 => []

def noDigest (hashFunc : Hash) : String := String.ofList (List.replicate hashFunc.length '0')

def shopClient : Client String String where
  hash := fun hashFunc text ↦ ((digestTable hashFunc).lookup text).getD (noDigest hashFunc)
  chargeUrls := ⟨"charge", "charge-receipt"⟩
  finish3dsUrls := ⟨"finish3ds", "finish3ds-receipt"⟩
  confirmUrls := ⟨"confirm", "confirm-receipt"⟩
  refundUrls := ⟨"refund", "refund-receipt"⟩
  encodeCheque := id
  encodeBrowserData := id

theorem shopClient_collisionFree (hashFunc : Hash) :
    HexDigest.CollisionFree (shopClient.hash hashFunc) hashFunc.length
      {text | text ∈ (digestTable hashFunc).map Prod.fst} := by
  cases hashFunc with
  | md5 => exact .of_table (by decide) (by decide +kernel) (by decide +kernel)
  | sha256 =>
    exact @HexDigest.CollisionFree.of_table 64 [] (noDigest .sha256) (by decide)
      (by decide +kernel) (by decide)

/-- A confirmation of the whole order, and one of nothing: their requests are the same. -/
def confirmAll : Operation String String := .confirm shop "order-1" none

def confirmZero : Operation String String := .confirm shop "order-1" (some (.finite ⟨false, 0, 0⟩))

theorem signature_separates_witness :
    (confirmAll.kind = confirmZero.kind ∧
      confirmAll.signed shopClient = confirmZero.signed shopClient) ∨
      Operation.Confused confirmAll confirmZero ∨ Operation.Confused confirmZero confirmAll :=
  (signature_separates shopClient_collisionFree).1 confirmAll confirmZero (by decide +kernel)
    (by decide +kernel) rfl

/-- A confirmation of ten roubles and the end of a 3-D Secure check have one signature, whatever the
hash function. -/
theorem confirm_signed_as_finish3ds :
    (Operation.confirm shop "order-1" (some tenRoubles) : Operation String String).kind ≠
        (Operation.finish3ds shop "order-1" "10.00" : Operation String String).kind ∧
      ∀ client : Client String String,
        (confirm client shop "order-1" (some tenRoubles)).data.lookup "Signature" =
          (finish3ds client shop "order-1" "10.00").data.lookup "Signature" := by
  refine ⟨by decide, fun client ↦ ?_⟩
  have htext : tenRoubles.str = "10.00" := by decide +kernel
  rw [confirm, finish3ds, confirmData, finish3dsData, ← htext]
  rfl

end YandexPay.Psp.Uniteller
