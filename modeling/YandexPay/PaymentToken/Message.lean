import YandexPay.PaymentToken.RoundTrip

/-!
# Messages

`EncryptedMessage` of `token.go` and `SealJSONMessage` of `sender.go`. Strings that are read from
and written to JSON are sequences of Unicode characters, so they are strings of Lean here.
`unsealJSONMessage_sealJSONMessage` is the round trip of a message.
-/

set_option autoImplicit false
set_option relaxedAutoImplicit false

namespace YandexPay.PaymentToken

open Outcome

def PaymentMethodCard : String := "CARD"

inductive AuthMethod
  | AuthMethodCloudToken
  | AuthMethodPANOnly
deriving DecidableEq

structure PaymentMethodDetails where
  AuthMethod : AuthMethod
  PAN : String
  ExpirationMonth : Int64
  ExpirationYear : Int64
  Cryptogram : String
  ECI : String
deriving DecidableEq

structure TransactionDetails where
  Amount : Int64
  Currency : String
deriving DecidableEq

structure MITDetails where
  Recurring : Bool
  Deferred : Bool
deriving DecidableEq

structure EncryptedMessage where
  PaymentMethod : String
  PaymentMethodDetails : PaymentMethodDetails
  PaymentAccountReference : String
  TransactionDetails : TransactionDetails
  MITDetails : Option MITDetails
  MessageID : String
  MessageExpiration : String
  GatewayMerchantID : String
deriving DecidableEq

/-- `encoding/json` on messages. -/
structure MessageJson where
  marshal : EncryptedMessage → Outcome Bytes
  /-- `json.Unmarshal` into a new `EncryptedMessage`. -/
  unmarshal : Bytes → Outcome EncryptedMessage

/-- JSON of a message is read back as it was written. -/
def MessageJson.RoundTrips (json : MessageJson) (message : EncryptedMessage) : Prop :=
  ∀ text, json.marshal message = .ok text → json.unmarshal text = .ok message

variable {s : SenderPrimitives}

/-- `Sender.SealJSONMessage` of a message -/
def Sender.SealJSONMessage (json : MessageJson) (tokenJson : TokenJson) (ts : Sender s)
    (random : s.Random × s.Random) (recipientID : Bytes) (message : EncryptedMessage)
    (recipientPublicKey : s.PublicKey) : Outcome Bytes := do
  let obj ← json.marshal message
  let token ← ts.Seal random recipientID obj recipientPublicKey
  token.Serialize tokenJson

/-- A recipient that a message is sealed for reads the same message. -/
theorem unsealJSONMessage_sealJSONMessage (hs : s.Correct) (hp : s.toPrimitives.Returns)
    {json : MessageJson} {tokenJson : TokenJson} {now : ℤ} {senderID recipientID : Bytes}
    {rootKeys : List s.ECDSAPrivateKey} {signingKey privateKey : s.ECDSAPrivateKey}
    {cert : IntermediateSigningCert} (hcert : IssuedFor rootKeys senderID now signingKey cert)
    {sender : Sender s}
    (hsender : NewSender s (some signingKey) (some cert) [WithSenderID senderID] = .ok sender)
    {random : s.Random × s.Random} {message : EncryptedMessage} {text : Bytes}
    (hseal : sender.SealJSONMessage json tokenJson random recipientID message
      (s.publicKey privateKey) = .ok text)
    (hjson : json.RoundTrips message)
    (htokenJson : ∀ obj token, json.marshal message = .ok obj →
      sender.Seal random recipientID obj (s.publicKey privateKey) = .ok token →
      tokenJson.RoundTrips token)
    {r : Recipient s.toPrimitives}
    (hr : ConfiguredFor senderID recipientID rootKeys privateKey r)
    (hothers : ∀ obj, json.marshal message = .ok obj → ∀ other ∈ r.recipientPrivateKeys,
      other ≠ s.hybridPrivateKey privateKey →
      s.FailsMac (s.publicKey privateKey) random.1 senderID obj other) :
    r.UnsealJSONMessage tokenJson json.unmarshal now text = .ok message := by
  simp only [Sender.SealJSONMessage, Token.Serialize, bind_eq_ok, pure_eq_ok] at hseal
  obtain ⟨obj, hobj, token, htoken, data, hdata, rfl⟩ := hseal
  obtain ⟨hascii, hunseal⟩ := unseal_of_seal hs hp hcert hsender htoken hr (hothers obj hobj)
  obtain ⟨data', hmarshal, hunmarshal⟩ := htokenJson obj token hobj htoken hascii
  obtain rfl := Outcome.ok.inj (hdata.symm.trans hmarshal)
  simp only [Recipient.UnsealJSONMessage, ParseToken_encodeToString, bind_eq_ok]
  exact ⟨token, hunmarshal, obj, hunseal, hjson obj hobj⟩

end YandexPay.PaymentToken
