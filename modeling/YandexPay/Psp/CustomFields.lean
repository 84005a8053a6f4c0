import YandexPay.Library.Base64
import YandexPay.Library.Delimited
import YandexPay.Psp.Payture

/-!
# Custom fields of a Payture block

`mobile_block` joins its custom fields to one text, `key=value` with `;` between. The browser data
is written in Base64, which has no `;`; the address of the user and the URL to notify are written as
they are. `customFields_iff`: the text determines the fields exactly when neither has a `;`.
-/

set_option autoImplicit false
set_option relaxedAutoImplicit false

namespace YandexPay.Psp.Payture

open Delimited PyDecimal

/-! ### The encoding of objects -/

section

variable {Cheque BrowserData : Type*}

/-- `_encode_obj`, with `dumps` the JSON text of the dumped object. -/
def encodeObj {Obj : Type*} (dumps : Obj → String) (obj : Obj) : String :=
  String.ofList ((Base64.encodeToString (utf8 (dumps obj))).map fun c ↦ Char.ofNat c.toNat)

/-- The client whose cheques and browser data are encoded by `_encode_obj`. -/
def encodingClient (endpointUrl : String → String) (getCurrencyPrecision : Option String → ℕ)
    (dumpsCheque : Cheque → String) (dumpsBrowserData : BrowserData → String) :
    Client Cheque BrowserData where
  endpointUrl := endpointUrl
  getCurrencyPrecision := getCurrencyPrecision
  encodeCheque := encodeObj dumpsCheque
  encodeBrowserData := encodeObj dumpsBrowserData

/-- A text in Base64 has no separator of fields. -/
theorem semicolon_notMem_encodeObj {Obj : Type*} (dumps : Obj → String) (obj : Obj) :
    ';' ∉ (encodeObj dumps obj).toList := by
  rw [encodeObj, String.toList_ofList]
  intro hmem
  obtain ⟨c, hc, hchar⟩ := List.mem_map.mp hmem
  have hcharacter : ∀ n < 64, Char.ofNat (Base64.character n).toNat ≠ ';' := by decide
  rcases Base64.eq_character_of_mem hc with rfl | ⟨n, hn, rfl⟩
  · exact absurd hchar (by decide)
  · exact hcharacter n hn hchar

/-! ### The fields -/

/-- The custom fields that `mobile_block` means to send. -/
def customFields (client : Client Cheque BrowserData) (args : MobileBlockArgs Cheque BrowserData) :
    List (String × String) :=
  [("IP", args.userIp), ("ChallengeNotificationURL", args.challengeNotificationUrl)] ++
    (if args.isCheckout then [("YaPayCheckout", "1")] else []) ++
    [("BrowserData", client.encodeBrowserData args.browserData)]

/-- What a reader of the text finds: its parts between `;`, each cut at its first `=`. -/
def readFields (text : String) : List (String × String) :=
  (splitFields ';' '=' text.toList).map fun field ↦
    (String.ofList field.1, String.ofList field.2)

theorem lookup_customFields {client : Client Cheque BrowserData}
    {args : MobileBlockArgs Cheque BrowserData} {request : PostRequest}
    (h : mobileBlock client args = .ok request) : request.data.lookup "CustomFields" =
      some (.text (toSemicolonSeparatedFormdata (customFields client args))) := by
  unfold mobileBlock at h
  generalize roubles client args.amount = amount at h
  cases amount with
  | error => cases h
  | ok amount =>
    cases h
    rfl

/-- The keys are plain words. -/
theorem separator_notMem_key {client : Client Cheque BrowserData}
    {args : MobileBlockArgs Cheque BrowserData} :
    ∀ field ∈ customFields client args, ';' ∉ field.1.toList ∧ '=' ∉ field.1.toList := by
  have hwords : ∀ key ∈ ["IP", "ChallengeNotificationURL", "YaPayCheckout", "BrowserData"],
      ';' ∉ key.toList ∧ '=' ∉ key.toList := by decide
  intro field hfield
  refine hwords field.1 ?_
  simp only [customFields, List.mem_append, List.mem_cons, List.not_mem_nil, or_false] at hfield
  rcases hfield with ((rfl | rfl) | hcheckout) | rfl
  · simp
  · simp
  · split_ifs at hcheckout
    · rw [List.mem_singleton.mp hcheckout]
      simp
    · cases hcheckout
  · simp

/-- The characters of a field. -/
def chars (field : String × String) : List Char × List Char := (field.1.toList, field.2.toList)

theorem toList_formdata (fields : List (String × String)) :
    (toSemicolonSeparatedFormdata fields).toList = joinFields ';' '=' (fields.map chars) := by
  rw [toSemicolonSeparatedFormdata, String.toList_intercalate, List.map_map, joinFields,
    List.map_map]
  refine congrArg _ (List.map_congr_left fun field _ ↦ ?_)
  change (field.1 ++ "=" ++ field.2).toList = field.1.toList ++ '=' :: field.2.toList
  rw [String.toList_append, String.toList_append, List.append_assoc]
  rfl

theorem ofChars_chars (fields : List (String × String)) :
    (fields.map chars).map (fun field ↦ (String.ofList field.1, String.ofList field.2)) =
      fields := by
  rw [List.map_map]
  refine (List.map_congr_left fun field _ ↦ ?_).trans (List.map_id fields)
  exact Prod.ext String.ofList_toList String.ofList_toList

theorem readFields_formdata_iff {fields : List (String × String)} (hfields : fields ≠ [])
    (hkeys : ∀ field ∈ fields, ';' ∉ field.1.toList ∧ '=' ∉ field.1.toList) :
    readFields (toSemicolonSeparatedFormdata fields) = fields ↔
      ∀ field ∈ fields, ';' ∉ field.2.toList := by
  have hinjective : Function.Injective fun field : List Char × List Char ↦
      (String.ofList field.1, String.ofList field.2) := by
    intro f g h
    exact Prod.ext (String.ofList_injective (congrArg Prod.fst h))
      (String.ofList_injective (congrArg Prod.snd h))
  have hread : readFields (toSemicolonSeparatedFormdata fields) = fields ↔
      splitFields ';' '=' (joinFields ';' '=' (fields.map chars)) = fields.map chars := by
    rw [readFields, toList_formdata]
    nth_rewrite 2 [← ofChars_chars fields]
    exact (List.map_injective_iff.mpr hinjective).eq_iff
  rw [hread, splitFields_joinFields_iff (by decide) (mt List.map_eq_nil_iff.mp hfields)]
  · exact List.forall_mem_map
  · exact List.forall_mem_map.mpr hkeys

/-- The posted text of the custom fields determines them exactly when the address of the user and
the URL to notify have no `;`. -/
theorem customFields_iff (endpointUrl : String → String)
    (getCurrencyPrecision : Option String → ℕ) (dumpsCheque : Cheque → String)
    (dumpsBrowserData : BrowserData → String) (args : MobileBlockArgs Cheque BrowserData)
    {request : PostRequest}
    (h : mobileBlock (encodingClient endpointUrl getCurrencyPrecision dumpsCheque
      dumpsBrowserData) args = .ok request) :
    (∃ text, request.data.lookup "CustomFields" = some (.text text) ∧
      readFields text = customFields (encodingClient endpointUrl getCurrencyPrecision dumpsCheque
        dumpsBrowserData) args) ↔
      ';' ∉ args.userIp.toList ∧ ';' ∉ args.challengeNotificationUrl.toList := by
  set client := encodingClient endpointUrl getCurrencyPrecision dumpsCheque dumpsBrowserData
    with hclient
  have hencoded : ';' ∉ (client.encodeBrowserData args.browserData).toList :=
    semicolon_notMem_encodeObj dumpsBrowserData args.browserData
  have hvalues : (∀ field ∈ customFields client args, ';' ∉ field.2.toList) ↔
      ';' ∉ args.userIp.toList ∧ ';' ∉ args.challengeNotificationUrl.toList := by
    constructor
    · intro h
      exact ⟨h ("IP", args.userIp) (by simp [customFields]),
        h ("ChallengeNotificationURL", args.challengeNotificationUrl) (by simp [customFields])⟩
    · rintro ⟨hip, hurl⟩ field hfield
      simp only [customFields, List.mem_append, List.mem_cons, List.not_mem_nil, or_false]
        at hfield
      rcases hfield with ((rfl | rfl) | hcheckout) | rfl
      · exact hip
      · exact hurl
      · split_ifs at hcheckout
        · rw [List.mem_singleton.mp hcheckout]
          decide
        · cases hcheckout
      · exact hencoded
  rw [lookup_customFields h, ← hvalues,
    ← readFields_formdata_iff (by simp [customFields]) separator_notMem_key]
  constructor
  · rintro ⟨text, htext, hread⟩
    cases htext
    exact hread
  · exact fun hread ↦ ⟨_, rfl, hread⟩

end

/-! ### A URL that adds a field -/

def shopClient : Client String String :=
  encodingClient (fun path ↦ "https://payture.test" ++ path) (fun _ ↦ 2) id id

def shopArgs (challengeNotificationUrl : String) : MobileBlockArgs String String where
  credentials := ⟨"payture-key", "password"⟩
  orderId := "test-001"
  paymentToken := "PAYMENTTOKEN"
  amount := .finite ⟨false, 500, 0⟩
  userIp := "192.0.2.1"
  challengeNotificationUrl := challengeNotificationUrl
  browserData := "{}"
  isCheckout := true
  cheque := none

theorem mobileBlock_shopArgs (url : String) :
    ∃ request, mobileBlock shopClient (shopArgs url) = .ok request :=
  ⟨_, rfl⟩

theorem customFields_iff_witness : ∃ request,
    mobileBlock shopClient (shopArgs "https://challenge.test") = .ok request ∧
      ∃ text, request.data.lookup "CustomFields" = some (.text text) ∧
        readFields text = customFields shopClient (shopArgs "https://challenge.test") := by
  obtain ⟨request, hrequest⟩ := mobileBlock_shopArgs "https://challenge.test"
  exact ⟨request, hrequest, (customFields_iff _ _ _ _ _ hrequest).mpr (by decide)⟩

/-- The reader finds a second address, which the URL has brought. -/
theorem url_adds_field : ∃ request,
    mobileBlock shopClient (shopArgs "https://m.test/n;IP=1.2.3.4") = .ok request ∧
      ∃ text, request.data.lookup "CustomFields" = some (.text text) ∧
        readFields text = [("IP", "192.0.2.1"), ("ChallengeNotificationURL", "https://m.test/n"),
          ("IP", "1.2.3.4"), ("YaPayCheckout", "1"), ("BrowserData", "e30=")] ∧
        readFields text ≠ customFields shopClient (shopArgs "https://m.test/n;IP=1.2.3.4") := by
  obtain ⟨request, hrequest⟩ := mobileBlock_shopArgs "https://m.test/n;IP=1.2.3.4"
  exact ⟨request, hrequest, _, lookup_customFields hrequest, by decide +kernel, by decide +kernel⟩

end YandexPay.Psp.Payture
