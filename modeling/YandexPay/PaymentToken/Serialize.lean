import YandexPay.PaymentToken.Recipient

/-!
# Tokens as text

`ParseToken` and `Serialize` of `token.go` and `UnsealJSONMessage` of `recipient.go`: a token
travels as the base64 of its JSON. The field `type` of the JSON, which is always the same and which
nobody reads, belongs to `TokenJson.marshal`.
-/

set_option autoImplicit false
set_option relaxedAutoImplicit false

namespace YandexPay.PaymentToken

/-- `encoding/json` on tokens. -/
structure TokenJson where
  marshal : Token → Outcome Bytes
  /-- `json.Unmarshal` into a new `Token`. -/
  unmarshal : Bytes → Outcome Token

def ParseToken (json : TokenJson) (serialized : Bytes) : Outcome Token := do
  json.unmarshal (← Base64.decodeString serialized)

@[simp] theorem ParseToken_encodeToString (json : TokenJson) (data : Bytes) :
    ParseToken json (Base64.encodeToString data) = json.unmarshal data := by
  rw [ParseToken, Base64.decodeString_encodeToString]
  rfl

/-- `Token.Serialize` -/
def Token.Serialize (json : TokenJson) (t : Token) : Outcome Bytes := do
  return Base64.encodeToString (← json.marshal t)

/-- `Recipient.UnsealJSONMessage`; `unmarshal` reads the message into the value of the caller. -/
def Recipient.UnsealJSONMessage {p : Primitives} (json : TokenJson) {α : Type}
    (unmarshal : Bytes → Outcome α) (r : Recipient p) (now : ℤ) (serializedToken : Bytes) :
    Outcome α := do
  let token ← ParseToken json serializedToken
  let objectBytes ← r.Unseal now (some token)
  unmarshal objectBytes

end YandexPay.PaymentToken
