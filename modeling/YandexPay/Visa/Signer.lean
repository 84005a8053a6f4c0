import YandexPay.Library.Dict
import YandexPay.Library.NetUrl

/-!
# Signing of requests

`signer.go` of `duckgo/visa`. A signer puts its key into the query of a request, and into a header
the time and an authentication code over the time, the path, the query and the body. The parts of
the header are read back (`splitOn_makeAuthHeader`), and a request is signed the same way when its
query has been parsed and written again (`authData_reencoded`).
-/

set_option autoImplicit false
set_option relaxedAutoImplicit false

namespace YandexPay.Visa

open Outcome NetUrl

/-- The authentication code of `crypto/hmac` with SHA-256: a secret, the data, their code. -/
abbrev Hmac := Bytes → Bytes → Bytes

/-- `hex.EncodeToString` -/
def hexEncodeToString (data : Bytes) : Bytes :=
  data.flatMap fun c ↦ [lowerHex (c.toNat / 16), lowerHex (c.toNat % 16)]
where
  lowerHex (n : ℕ) : UInt8 := UInt8.ofNat (if n < 10 then n + 48 else n + 87)

/-! ### Signing -/

def AuthorizationHeaderName : String := "x-pay-token"

def AuthorizationQueryParamName : Bytes := utf8 "apiKey"

structure Signer where
  key : Bytes
  secret : Bytes
  key_ne : key ≠ []
  secret_ne : secret ≠ []

inductive SignerOption
  | WithSignerAPIKey (key : Bytes)
  | WithSignerSecret (secret : Bytes)

/-- The key and the secret after an option. -/
def SignerOption.apply : Bytes × Bytes → SignerOption → Bytes × Bytes
  | signer, .WithSignerAPIKey key => (key, signer.2)
  | signer, .WithSignerSecret secret => (signer.1, secret)

def NewSigner (opts : List SignerOption) : Outcome Signer :=
  let signer := opts.foldl SignerOption.apply ([], [])
  if hkey : signer.1 = [] then .panic
  else if hsecret : signer.2 = [] then .panic
  else .ok ⟨signer.1, signer.2, hkey, hsecret⟩

/-- `http.Request`. Headers are under their canonical names. -/
structure Request where
  URL : URL
  /-- Whether `Body` is not nil. -/
  HasBody : Bool
  /-- What `GetBody` and reading its result return; a nil function panics. -/
  GetBody : Outcome Bytes
  Header : String → Option Bytes

def getRequestBody (req : Request) : Outcome Bytes :=
  if req.HasBody then req.GetBody else .ok []

/-- `strings.TrimPrefix(u.EscapedPath(), "/")` -/
def authPath (u : URL) : Bytes :=
  if u.EscapedPath.head? = some 47 then u.EscapedPath.tail else u.EscapedPath

/-- What `MakeAuthHeaderForTimestamp` writes into the hash. -/
def authData (timestamp : Int64) (u : URL) (payload : Bytes) : Bytes :=
  let query := u.Query.encode
  let path := authPath u
  let timestampString := formatInt timestamp.toInt
  timestampString ++ path ++ query ++ payload

/-- The signature of `MakeAuthHeaderForTimestamp`. -/
def authSignature (hmac : Hmac) (timestamp : Int64) (u : URL) (payload secret : Bytes) : Bytes :=
  hexEncodeToString (hmac secret (authData timestamp u payload))

def MakeAuthHeaderForTimestamp (hmac : Hmac) (timestamp : Int64) (u : URL)
    (payload secret : Bytes) : Bytes :=
  utf8 "xv2:" ++ formatInt timestamp.toInt ++ utf8 ":" ++
    authSignature hmac timestamp u payload secret

/-- `Signer.Sign` at a time -/
def Signer.Sign (hmac : Hmac) (now : Int64) (signer : Signer) (req : Request) :
    Outcome Request := do
  let query := req.URL.Query.set AuthorizationQueryParamName signer.key
  let u := { req.URL with RawQuery := query.encode }
  let body ← getRequestBody req
  let authHeader := MakeAuthHeaderForTimestamp hmac now u body signer.secret
  return { req with
    URL := u
    Header := Function.update req.Header AuthorizationHeaderName (some authHeader) }

/-! ### The header -/

theorem colon_notMem_formatInt (n : ℤ) : 58 ∉ formatInt n := by
  have hnat : ∀ n, 58 ∉ formatNat n := fun n hmem ↦
    absurd (digit_of_mem_formatNat hmem).2 (by decide)
  cases n with
  | ofNat n => exact hnat n
  | negSucc n =>
    rw [formatInt, List.mem_cons, not_or]
    exact ⟨by decide, hnat (n + 1)⟩

theorem colon_notMem_hexEncodeToString (data : Bytes) : 58 ∉ hexEncodeToString data := by
  have hdigit : ∀ n < 16, hexEncodeToString.lowerHex n ≠ 58 := by decide
  intro hmem
  obtain ⟨c, -, hc⟩ := List.mem_flatMap.mp hmem
  have hlt := c.toNat_lt
  simp only [List.mem_cons, List.not_mem_nil, or_false] at hc
  rcases hc with hc | hc
  · exact hdigit _ (by omega) hc.symm
  · exact hdigit _ (by omega) hc.symm

theorem lowerHex_injective :
    ∀ m < 16, ∀ n < 16, hexEncodeToString.lowerHex m = hexEncodeToString.lowerHex n → m = n := by
  decide

theorem hexEncodeToString_injective : Function.Injective hexEncodeToString := by
  intro data
  induction data with
  | nil =>
    rintro (_ | ⟨d, other⟩) h
    · rfl
    · cases h
  | cons c data ih =>
    rintro (_ | ⟨d, other⟩) h
    · cases h
    · obtain ⟨hhigh, hrest⟩ := List.cons.inj h
      obtain ⟨hlow, htail⟩ := List.cons.inj hrest
      have hc := c.toNat_lt
      have hd := d.toNat_lt
      have hdiv := lowerHex_injective _ (by omega) _ (by omega) hhigh
      have hmod := lowerHex_injective _ (by omega) _ (by omega) hlow
      rw [ih htail, UInt8.toNat_inj.mp (by omega : c.toNat = d.toNat)]

section Header

variable (hmac : Hmac) (timestamp : Int64) (u : URL) (payload secret : Bytes)

/-- The header has three parts. -/
theorem splitOn_makeAuthHeader :
    (MakeAuthHeaderForTimestamp hmac timestamp u payload secret).splitOn 58 =
      [utf8 "xv2", formatInt timestamp.toInt, authSignature hmac timestamp u payload secret] := by
  have hparts : MakeAuthHeaderForTimestamp hmac timestamp u payload secret =
      [58].intercalate [utf8 "xv2", formatInt timestamp.toInt,
        authSignature hmac timestamp u payload secret] := by
    have hversion : utf8 "xv2:" = utf8 "xv2" ++ [58] := by decide
    have hcolon : utf8 ":" = [58] := by decide
    simp [MakeAuthHeaderForTimestamp, hversion, hcolon, List.intercalate]
  rw [hparts]
  refine List.splitOn_intercalate 58 ?_ (List.cons_ne_nil _ _)
  simp only [List.forall_mem_cons, List.not_mem_nil, false_implies, implies_true, and_true]
  exact ⟨by decide, colon_notMem_formatInt _, colon_notMem_hexEncodeToString _⟩

/-- The order of the parameters of a query and the way they are escaped do not matter. -/
theorem authData_reencoded :
    authData timestamp { u with RawQuery := u.Query.encode } payload =
      authData timestamp u payload := by
  have hquery : URL.Query { u with RawQuery := u.Query.encode } = u.Query.sorted :=
    parseQuery_encode u.Query
  have hpath : authPath { u with RawQuery := u.Query.encode } = authPath u := rfl
  have hsorted : u.Query.sorted.encode = u.Query.encode := by
    rw [← parseQuery_encode]
    exact encode_parseQuery_encode u.Query
  rw [authData, authData, hquery, hpath, hsorted]

end Header

end YandexPay.Visa
