import YandexPay.Visa.Signer

/-!
# Verification of requests

`verifier.go` of `duckgo/visa`. A verifier looks a secret up by the key in the query of a request
and computes the header again. `verifyRequest_eq_ok` says exactly which headers it accepts.
-/

set_option autoImplicit false
set_option relaxedAutoImplicit false

namespace YandexPay.Visa

open Outcome NetUrl

/-! ### The verifier -/

/-- `Verifier`: secrets by the names of their keys. -/
structure Verifier where
  secrets : Dict Bytes Bytes

/-- A `VerifierOption` adds a secret under a name. -/
structure VerifierOption where
  key : Bytes
  secret : Bytes
  key_ne : key ≠ []
  secret_ne : secret ≠ []

def WithNamedSecret (key secret : Bytes) : Outcome VerifierOption :=
  if hkey : key = [] then .panic
  else if hsecret : secret = [] then .panic
  else .ok ⟨key, secret, hkey, hsecret⟩

/-- The loop of `NewVerifier`; a key that exists already panics. -/
def applyOptions (verifier : Verifier) : List VerifierOption → Outcome Verifier
  | [] => .ok verifier
  | opt :: opts =>
    if (verifier.secrets.get? opt.key).isSome then .panic
    else applyOptions ⟨verifier.secrets.set opt.key opt.secret⟩ opts

def NewVerifier (opts : List VerifierOption) : Outcome Verifier :=
  applyOptions ⟨Dict.empty⟩ opts

def tokenValidPeriod : Int64 := 300

/-- `Verifier.VerifyRequest` at a time. The age is a difference of 64-bit integers. -/
def Verifier.VerifyRequest (hmac : Hmac) (now : Int64) (verifier : Verifier) (u : URL)
    (body signature : Bytes) : Outcome Unit := do
  require (signature ≠ []) (.errorf "visa: empty signature" [])
  let expectedKey := u.Query.get AuthorizationQueryParamName
  require (expectedKey ≠ []) (.errorf "visa: apiKey is missing" [])
  let secret ← ofOption (.errorf "visa: missing apiKey %s" expectedKey)
    (verifier.secrets.get? expectedKey)
  let timestampString ← ofOption
    (.errorf "visa: wrong signature format, 3 parts expected xv2:ts:sig" [])
    (match signature.splitOn 58 with
    | [version, timestampString, _] =>
      if version = utf8 "xv2" then some timestampString else none
    | _ => none)
  let ts ← ofOption (.numError timestampString) (parseInt64 timestampString)
  require (now - ts ≤ tokenValidPeriod) (.errorf "visa: signature expired" [])
  let expected := MakeAuthHeaderForTimestamp hmac ts u body secret
  require (expected = signature) (.errorf "visa: wrong signature" [])

/-! ### What is accepted -/

/-- The verifier has a secret under the key in the query of a URL. -/
def Verifier.HasSecret (verifier : Verifier) (u : URL) (secret : Bytes) : Prop :=
  u.Query.get AuthorizationQueryParamName ≠ [] ∧
    verifier.secrets.get? (u.Query.get AuthorizationQueryParamName) = some secret

theorem Verifier.HasSecret.eq {verifier : Verifier} {u : URL} {secret secret' : Bytes}
    (h : verifier.HasSecret u secret) (h' : verifier.HasSecret u secret') : secret = secret' :=
  Option.some_inj.mp (h.2.symm.trans h'.2)

/-- The time in the second of the three parts of a header. -/
def timestampOf (signature : Bytes) : Option Int64 :=
  match signature.splitOn 58 with
  | [_, timestampString, _] => parseInt64 timestampString
  | _ => none

theorem timestampOf_makeAuthHeader (hmac : Hmac) (ts : Int64) (u : URL) (body secret : Bytes) :
    timestampOf (MakeAuthHeaderForTimestamp hmac ts u body secret) = some ts := by
  rw [timestampOf, splitOn_makeAuthHeader]
  exact parseInt64_formatInt ts

/-- A verifier accepts the header that a holder of the secret makes for a time, unless the machine
difference between the clock and that time is more than the valid period. -/
theorem verifyRequest_eq_ok {hmac : Hmac} {now : Int64} {verifier : Verifier} {u : URL}
    {body signature : Bytes} :
    verifier.VerifyRequest hmac now u body signature = .ok () ↔
      ∃ ts secret, verifier.HasSecret u secret ∧ now - ts ≤ tokenValidPeriod ∧
        signature = MakeAuthHeaderForTimestamp hmac ts u body secret := by
  simp only [Verifier.VerifyRequest, bind_eq_ok, require_eq_ok, ofOption_eq_ok, decide_eq_true_eq]
  constructor
  · rintro ⟨-, -, -, hkey, secret, hsecret, text, -, ts, -, -, hage, hsignature⟩
    exact ⟨ts, secret, ⟨hkey, hsecret⟩, hage, hsignature.symm⟩
  · rintro ⟨ts, secret, ⟨hkey, hsecret⟩, hage, rfl⟩
    have hne : MakeAuthHeaderForTimestamp hmac ts u body secret ≠ [] := by
      intro h
      have htime := timestampOf_makeAuthHeader hmac ts u body secret
      rw [h] at htime
      cases htime
    refine ⟨(), hne, (), hkey, secret, hsecret, formatInt ts.toInt, ?_, ts,
      parseInt64_formatInt ts, (), hage, rfl⟩
    rw [splitOn_makeAuthHeader]
    exact if_pos rfl

/-! ### The age of a header -/

/-- The machine difference wraps around where the exact one does not fit 64 bits. -/
theorem age_le_iff (now ts : Int64) :
    now - ts ≤ tokenValidPeriod ↔
      (-2 ^ 63 ≤ now.toInt - ts.toInt ∧ now.toInt - ts.toInt ≤ 300) ∨
        2 ^ 63 ≤ now.toInt - ts.toInt ∨ now.toInt - ts.toInt ≤ 300 - 2 ^ 64 := by
  have hnow := now.toInt_lt
  have hnow' := now.le_toInt
  have hts := ts.toInt_lt
  have hts' := ts.le_toInt
  have hperiod : tokenValidPeriod.toInt = 300 := by decide
  rw [Int64.le_iff_toInt_le, Int64.toInt_sub, hperiod, Int.bmod_def]
  omega

theorem age_le_of_fresh {now ts : Int64} (hstart : ts.toInt ≤ now.toInt)
    (hend : now.toInt ≤ ts.toInt + 300) : now - ts ≤ tokenValidPeriod := by
  rw [age_le_iff]
  omega

/-- An accepted header is at most five minutes old and not from the future. -/
def AcceptsOnlyFresh (hmac : Hmac) (now : Int64) (verifier : Verifier) (u : URL)
    (body signature : Bytes) : Prop :=
  verifier.VerifyRequest hmac now u body signature = .ok () →
    ∃ ts, timestampOf signature = some ts ∧
      0 ≤ now.toInt - ts.toInt ∧ now.toInt - ts.toInt ≤ 300

/-- Only fresh headers are accepted exactly if the header is not genuine or its time is neither in
the future nor so far away that the machine difference wraps around into the valid period. -/
theorem acceptsOnlyFresh_iff (hmac : Hmac) (now : Int64) (verifier : Verifier) (u : URL)
    (body signature : Bytes) :
    AcceptsOnlyFresh hmac now verifier u body signature ↔
      ∀ ts secret, verifier.HasSecret u secret →
        signature = MakeAuthHeaderForTimestamp hmac ts u body secret →
        (ts.toInt ≤ now.toInt ∧ now.toInt - ts.toInt < 2 ^ 63) ∨
          (2 ^ 63 < ts.toInt - now.toInt ∧ ts.toInt - now.toInt < 2 ^ 64 - 300) := by
  constructor
  · rintro hfresh ts secret hsecret rfl
    by_contra hage
    have haccepted : now - ts ≤ tokenValidPeriod := by
      rw [age_le_iff]
      omega
    obtain ⟨ts', hts', hlow, hhigh⟩ :=
      hfresh (verifyRequest_eq_ok.mpr ⟨ts, secret, hsecret, haccepted, rfl⟩)
    rw [timestampOf_makeAuthHeader, Option.some_inj] at hts'
    subst hts'
    omega
  · intro hgenuine haccepted
    obtain ⟨ts, secret, hsecret, hage, rfl⟩ := verifyRequest_eq_ok.mp haccepted
    have htime := hgenuine ts secret hsecret rfl
    rw [age_le_iff] at hage
    refine ⟨ts, timestampOf_makeAuthHeader _ _ _ _ _, ?_, ?_⟩
    · omega
    · omega

/-! ### Fixed inputs -/

/-- Codes that are known for some data; other data has longer codes. -/
def hmacOn (codes : List (Bytes × Bytes)) : Hmac := fun _ data ↦
  match codes.lookup data with
  | some code => code
  | none => List.replicate 33 0 ++ data

def sampleURL : URL where
  Path := utf8 "/pa/th"
  RawPath := []
  RawQuery := utf8 "apiKey=key"

def samplePayload : Bytes := utf8 "\x7b\"pay\": \"load\"\x7d"

def sampleVerifier : Verifier := ⟨Dict.ofList [(utf8 "key", utf8 "secretsecretsecret")]⟩

/-- The codes of the secret for three times. -/
def sampleHmac : Hmac :=
  hmacOn [
    (utf8 "1337228322pa/thapiKey=key\x7b\"pay\": \"load\"\x7d",
      [56, 9, 39, 61, 240, 143, 28, 4, 99, 227, 98, 47, 56, 109, 7, 115, 199, 89, 170, 244, 122,
        160, 74, 156, 157, 158, 23, 137, 156, 59, 132, 82]),
    (utf8 "1337231922pa/thapiKey=key\x7b\"pay\": \"load\"\x7d",
      [149, 100, 156, 166, 146, 83, 128, 142, 164, 0, 53, 70, 36, 63, 164, 58, 98, 25, 73, 240,
        109, 120, 14, 171, 60, 54, 177, 71, 234, 102, 52, 87]),
    (utf8 "-9223372036854775808pa/thapiKey=key\x7b\"pay\": \"load\"\x7d",
      [248, 202, 142, 112, 215, 76, 237, 203, 204, 65, 147, 49, 9, 69, 23, 254, 128, 168, 159, 204,
        81, 78, 39, 223, 245, 86, 65, 154, 131, 50, 21, 22])]

/-- The header of a time for the sample request. -/
def sampleHeader (ts : Int64) : Bytes :=
  MakeAuthHeaderForTimestamp sampleHmac ts sampleURL samplePayload (utf8 "secretsecretsecret")

/-- A header of a time one hour ahead is accepted, and so is one of the least time of 64 bits. -/
theorem not_acceptsOnlyFresh :
    ¬AcceptsOnlyFresh sampleHmac 1337228322 sampleVerifier sampleURL samplePayload
        (sampleHeader 1337231922) ∧
      ¬AcceptsOnlyFresh sampleHmac 1337228322 sampleVerifier sampleURL samplePayload
        (sampleHeader (-9223372036854775808)) := by
  constructor
  · intro h
    obtain ⟨ts, hts, hlow, -⟩ := h (by decide +kernel)
    rw [sampleHeader, timestampOf_makeAuthHeader, Option.some_inj] at hts
    subst hts
    exact absurd hlow (by decide)
  · intro h
    obtain ⟨ts, hts, -, hhigh⟩ := h (by decide +kernel)
    rw [sampleHeader, timestampOf_makeAuthHeader, Option.some_inj] at hts
    subst hts
    exact absurd hhigh (by decide)

/-! ### Signing and verifying agree -/

theorem get?_of_applyOptions {verifier result : Verifier} {opts : List VerifierOption}
    (h : applyOptions verifier opts = .ok result) {key secret : Bytes}
    (hkey : verifier.secrets.get? key = some secret ∨
      ∃ opt ∈ opts, opt.key = key ∧ opt.secret = secret) :
    result.secrets.get? key = some secret := by
  induction opts generalizing verifier with
  | nil =>
    cases h
    rcases hkey with hkey | ⟨opt, hopt, -⟩
    · exact hkey
    · exact absurd hopt List.not_mem_nil
  | cons first opts ih =>
    rw [applyOptions] at h
    split_ifs at h with hexists
    refine ih h ?_
    -- A key that an earlier option has set is not the key of the first one.
    rcases hkey with hkey | ⟨opt, hopt, hk, hs⟩
    · left
      have hne : key ≠ first.key := by
        rintro rfl
        exact hexists (hkey ▸ rfl)
      rw [Dict.get?_set, if_neg hne]
      exact hkey
    · rcases List.mem_cons.mp hopt with rfl | hopt
      · left
        rw [Dict.get?_set, if_pos hk.symm, hs]
      · exact Or.inr ⟨opt, hopt, hk, hs⟩

/-- A verifier has the secrets of its options. -/
theorem get?_of_newVerifier {opts : List VerifierOption} {verifier : Verifier}
    (h : NewVerifier opts = .ok verifier) {opt : VerifierOption} (hopt : opt ∈ opts) :
    verifier.secrets.get? opt.key = some opt.secret :=
  get?_of_applyOptions h (Or.inr ⟨opt, hopt, rfl, rfl⟩)

/-- At every time of the valid period one header of a time is accepted. -/
theorem existsUnique_signature {hmac : Hmac} {now ts : Int64} {verifier : Verifier} {u : URL}
    {body secret : Bytes} (hsecret : verifier.HasSecret u secret)
    (hage : now - ts ≤ tokenValidPeriod) :
    ∃! signature, timestampOf signature = some ts ∧
      verifier.VerifyRequest hmac now u body signature = .ok () := by
  refine ⟨MakeAuthHeaderForTimestamp hmac ts u body secret, ⟨?_, ?_⟩, ?_⟩
  · exact timestampOf_makeAuthHeader hmac ts u body secret
  · exact verifyRequest_eq_ok.mpr ⟨ts, secret, hsecret, hage, rfl⟩
  · rintro signature ⟨hts, haccepted⟩
    obtain ⟨ts', secret', hsecret', -, rfl⟩ := verifyRequest_eq_ok.mp haccepted
    rw [timestampOf_makeAuthHeader, Option.some_inj] at hts
    rw [hts, hsecret'.eq hsecret]

/-- What `Sign` puts into a request at a time is accepted for the same body at every time of the
five minutes from then on. For every URL of a known key and every body, exactly one header of that
time is accepted. -/
theorem verifyRequest_sign {hmac : Hmac} {opts : List VerifierOption} {verifier : Verifier}
    {signer : Signer} {req : Request} {body : Bytes} {ts now : Int64}
    (hverifier : NewVerifier opts = .ok verifier)
    (hoption : ∃ opt ∈ opts, opt.key = signer.key ∧ opt.secret = signer.secret)
    (hbody : getRequestBody req = .ok body)
    (hstart : ts.toInt ≤ now.toInt) (hend : now.toInt ≤ ts.toInt + 300) :
    (∃ signed header, signer.Sign hmac ts req = .ok signed ∧
      signed.Header AuthorizationHeaderName = some header ∧
      timestampOf header = some ts ∧
      verifier.VerifyRequest hmac now signed.URL body header = .ok ()) ∧
    ∀ u payload secret, verifier.HasSecret u secret →
      ∃! signature, timestampOf signature = some ts ∧
        verifier.VerifyRequest hmac now u payload signature = .ok () := by
  have hage := age_le_of_fresh hstart hend
  refine ⟨?_, fun u payload secret hsecret ↦ existsUnique_signature hsecret hage⟩
  obtain ⟨opt, hopt, hkey, hopt_secret⟩ := hoption
  let query := req.URL.Query.set AuthorizationQueryParamName signer.key
  let u : URL := { req.URL with RawQuery := query.encode }
  let header := MakeAuthHeaderForTimestamp hmac ts u body signer.secret
  have hget : u.Query.get AuthorizationQueryParamName = signer.key :=
    get_parseQuery_encode_set _ _ _
  have hsecret : verifier.HasSecret u signer.secret := by
    rw [Verifier.HasSecret, hget]
    refine ⟨signer.key_ne, ?_⟩
    rw [← hkey, ← hopt_secret]
    exact get?_of_newVerifier hverifier hopt
  refine ⟨{ req with
    URL := u
    Header := Function.update req.Header AuthorizationHeaderName (some header) }, header, ?_, ?_,
    timestampOf_makeAuthHeader _ _ _ _ _, ?_⟩
  · rw [Signer.Sign, hbody]
    rfl
  · exact Function.update_self AuthorizationHeaderName (some header) req.Header
  · exact verifyRequest_eq_ok.mpr ⟨ts, signer.secret, hsecret, hage, rfl⟩

def sampleSigner : Signer where
  key := utf8 "key"
  secret := utf8 "secretsecretsecret"
  key_ne := by decide
  secret_ne := by decide

def sampleOption : VerifierOption where
  key := utf8 "key"
  secret := utf8 "secretsecretsecret"
  key_ne := by decide
  secret_ne := by decide

/-- A request whose query has another key, twice. -/
def sampleRequest : Request where
  URL := { sampleURL with RawQuery := utf8 "apiKey=a&apiKey=b" }
  HasBody := true
  GetBody := .ok samplePayload
  Header := fun _ ↦ none

theorem verifyRequest_sign_witness :
    (∃ signed header, sampleSigner.Sign sampleHmac 1337228322 sampleRequest = .ok signed ∧
      signed.Header AuthorizationHeaderName = some header ∧
      timestampOf header = some 1337228322 ∧
      sampleVerifier.VerifyRequest sampleHmac 1337228622 signed.URL samplePayload header =
        .ok ()) ∧
    ∃! signature, timestampOf signature = some 1337228322 ∧
      sampleVerifier.VerifyRequest sampleHmac 1337228622 sampleURL samplePayload signature =
        .ok () := by
  have h := @verifyRequest_sign sampleHmac [sampleOption] sampleVerifier sampleSigner
    sampleRequest samplePayload 1337228322 1337228622 rfl
    ⟨sampleOption, List.mem_singleton_self _, rfl, rfl⟩ rfl (by decide) (by decide)
  exact ⟨h.1, h.2 sampleURL samplePayload (utf8 "secretsecretsecret") ⟨by decide, by decide⟩⟩

/-! ### What a signature binds -/

/-- The path, the query and the body as they are written into the hash. -/
def requestData (u : URL) (body : Bytes) : Bytes := authPath u ++ u.Query.encode ++ body

theorem authData_eq (ts : Int64) (u : URL) (body : Bytes) :
    authData ts u body = formatInt ts.toInt ++ requestData u body := by
  simp only [authData, requestData, List.append_assoc]

theorem formatInt_injective {m n : Int64} (h : formatInt m.toInt = formatInt n.toInt) : m = n := by
  have hparsed := congrArg parseInt64 h
  rw [parseInt64_formatInt, parseInt64_formatInt] at hparsed
  exact Option.some_inj.mp hparsed

section Binding

variable {hmac : Hmac} {secret : Bytes} (hinjective : Function.Injective (hmac secret))
include hinjective

theorem authSignature_eq_iff {ts ts' : Int64} {u u' : URL} {body body' : Bytes} :
    authSignature hmac ts u body secret = authSignature hmac ts' u' body' secret ↔
      formatInt ts.toInt ++ requestData u body = formatInt ts'.toInt ++ requestData u' body' := by
  rw [← authData_eq, ← authData_eq]
  constructor
  · exact fun h ↦ hinjective (hexEncodeToString_injective h)
  · intro h
    rw [authSignature, authSignature, h]

/-- Equal signatures of parts of equal lengths are signatures of equal parts. -/
theorem eq_of_authSignature_eq {ts ts' : Int64} {u u' : URL} {body body' : Bytes}
    (htext : (formatInt ts.toInt).length = (formatInt ts'.toInt).length)
    (hpath : (authPath u).length = (authPath u').length)
    (hquery : u.Query.encode.length = u'.Query.encode.length)
    (h : authSignature hmac ts u body secret = authSignature hmac ts' u' body' secret) :
    ts = ts' ∧ authPath u = authPath u' ∧ u.Query.encode = u'.Query.encode ∧ body = body' := by
  obtain ⟨htime, hdata⟩ := List.append_inj ((authSignature_eq_iff hinjective).mp h) htext
  rw [requestData, requestData, List.append_assoc, List.append_assoc] at hdata
  obtain ⟨hpath', hrest⟩ := List.append_inj hdata hpath
  obtain ⟨hquery', hbody⟩ := List.append_inj hrest hquery
  exact ⟨formatInt_injective htime, hpath', hquery', hbody⟩

/-- The header of one request is accepted for another one of the same secret exactly if the path,
the query and the body of both are the same when written one after another. -/
theorem verifyRequest_header_iff {now ts : Int64} {verifier : Verifier} {u u' : URL}
    {body body' : Bytes} (hsecret : verifier.HasSecret u' secret)
    (hage : now - ts ≤ tokenValidPeriod) :
    verifier.VerifyRequest hmac now u' body'
        (MakeAuthHeaderForTimestamp hmac ts u body secret) = .ok () ↔
      requestData u body = requestData u' body' := by
  rw [verifyRequest_eq_ok]
  constructor
  · rintro ⟨ts', secret', hsecret', -, hheader⟩
    have htime := timestampOf_makeAuthHeader hmac ts u body secret
    rw [hheader, timestampOf_makeAuthHeader, Option.some_inj] at htime
    rw [hsecret'.eq hsecret, htime] at hheader
    exact List.append_cancel_left
      ((authSignature_eq_iff hinjective).mp (List.append_cancel_left hheader))
  · intro hdata
    refine ⟨ts, secret, hsecret, hage, ?_⟩
    have hsignature : authSignature hmac ts u body secret =
        authSignature hmac ts u' body' secret := by
      rw [authSignature_eq_iff hinjective, hdata]
    rw [MakeAuthHeaderForTimestamp, MakeAuthHeaderForTimestamp, hsignature]

/-- Signatures bind the time, the path, the query and the body as one text without separators, and
the parts themselves where their lengths are the same. -/
theorem authSignature_binds :
    (∀ ts ts' u u' body body',
      authSignature hmac ts u body secret = authSignature hmac ts' u' body' secret ↔
        formatInt ts.toInt ++ requestData u body =
          formatInt ts'.toInt ++ requestData u' body') ∧
    (∀ ts ts' u u' body body',
      (formatInt ts.toInt).length = (formatInt ts'.toInt).length →
      (authPath u).length = (authPath u').length →
      u.Query.encode.length = u'.Query.encode.length →
      authSignature hmac ts u body secret = authSignature hmac ts' u' body' secret →
      ts = ts' ∧ authPath u = authPath u' ∧ u.Query.encode = u'.Query.encode ∧ body = body') ∧
    ∀ now ts verifier u u' body body', Verifier.HasSecret verifier u' secret →
      now - ts ≤ tokenValidPeriod →
      (verifier.VerifyRequest hmac now u' body'
          (MakeAuthHeaderForTimestamp hmac ts u body secret) = .ok () ↔
        requestData u body = requestData u' body') :=
  ⟨fun _ _ _ _ _ _ ↦ authSignature_eq_iff hinjective,
    fun _ _ _ _ _ _ ↦ eq_of_authSignature_eq hinjective,
    fun _ _ _ _ _ _ _ ↦ verifyRequest_header_iff hinjective⟩

end Binding

theorem hmacOn_injective {data code : Bytes} (hcode : code.length ≤ 32) (secret : Bytes) :
    Function.Injective (hmacOn [(data, code)] secret) := by
  intro a b h
  have hlookup : ∀ x, List.lookup x [(data, code)] = if x = data then some code else none := by
    intro x
    rw [List.lookup_cons, List.lookup_nil]
    by_cases hx : x = data
    · rw [if_pos hx, hx, beq_self_eq_true]
    · rw [if_neg hx, beq_false_of_ne hx]
  have hlength := congrArg List.length h
  simp only [hmacOn, hlookup] at h hlength
  split_ifs at h hlength with ha hb hb
  · rw [ha, hb]
  · simp only [List.length_append, List.length_replicate] at hlength
    omega
  · simp only [List.length_append, List.length_replicate] at hlength
    omega
  · exact List.append_cancel_left h

/-- The code of the secret for a request with a parameter in its query, or in its body. -/
def movedHmac : Hmac :=
  hmacOn [(utf8 "1337228322pa/thapiKey=key&k=v",
    [196, 222, 29, 246, 156, 104, 99, 89, 50, 166, 195, 140, 113, 156, 98, 123, 111, 252, 147, 222,
      159, 24, 114, 214, 157, 102, 41, 178, 189, 224, 49, 197])]

def queryURL : URL := { sampleURL with RawQuery := utf8 "apiKey=key&k=v" }

/-- A parameter of the query may be moved into the body. -/
theorem authSignature_moved_parameter :
    Function.Injective (movedHmac (utf8 "secretsecretsecret")) ∧
      queryURL.Query.encode ≠ sampleURL.Query.encode ∧ ([] : Bytes) ≠ utf8 "&k=v" ∧
      authSignature movedHmac 1337228322 queryURL [] (utf8 "secretsecretsecret") =
        authSignature movedHmac 1337228322 sampleURL (utf8 "&k=v") (utf8 "secretsecretsecret") ∧
      sampleVerifier.VerifyRequest movedHmac 1337228322 sampleURL (utf8 "&k=v")
        (MakeAuthHeaderForTimestamp movedHmac 1337228322 queryURL []
          (utf8 "secretsecretsecret")) = .ok () :=
  ⟨hmacOn_injective (by decide) _, by decide, by decide, by decide +kernel, by decide +kernel⟩

theorem authSignature_binds_witness :
    (authSignature movedHmac 1337228322 queryURL [] (utf8 "secretsecretsecret") =
        authSignature movedHmac 1337228322 sampleURL samplePayload (utf8 "secretsecretsecret") ↔
      formatInt (1337228322 : Int64).toInt ++ requestData queryURL [] =
        formatInt (1337228322 : Int64).toInt ++ requestData sampleURL samplePayload) ∧
    (sampleVerifier.VerifyRequest movedHmac 1337228322 sampleURL (utf8 "&k=v")
        (MakeAuthHeaderForTimestamp movedHmac 1337228322 queryURL []
          (utf8 "secretsecretsecret")) = .ok () ↔
      requestData queryURL [] = requestData sampleURL (utf8 "&k=v")) := by
  have h := @authSignature_binds movedHmac (utf8 "secretsecretsecret")
    (hmacOn_injective (by decide) _)
  exact ⟨h.1 _ _ _ _ _ _, h.2.2 1337228322 1337228322 sampleVerifier queryURL sampleURL [] _
    ⟨by decide, by decide⟩ (by decide)⟩

end YandexPay.Visa
