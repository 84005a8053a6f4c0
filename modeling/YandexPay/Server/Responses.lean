import YandexPay.Library.HttpHandler
import YandexPay.Server.Checkout

/-!
# Responses

How the handlers of `duckgo/server` answer: `sendAPIResponse` and `sendAPIError` of
`external_handlers.go`, `handleJSONError` of `internal_handlers.go`, and the errors of the card
networks, which `newError` of `duckgo/visa` and of `duckgo/mastercard` makes of an answer.

A `json.RawMessage` is written as it is, and `json.Encoder` writes nothing at all when it is not a
JSON value. `newError` of `duckgo/mastercard` takes over the body of an answer whose content type is
JSON, and that of `duckgo/visa` every body.
-/

set_option autoImplicit false
set_option relaxedAutoImplicit false

namespace YandexPay

open Outcome HttpHandler

/-! ### Errors of the card networks -/

/-- The parts of `resty.Response` that are read. A status has three digits. -/
structure RestyResponse where
  statusCode : ℕ
  statusCode_le : statusCode ≤ 999
  /-- `Header().Get` -/
  header : String → String
  body : Bytes

/-- `Response.IsError` -/
def RestyResponse.IsError (resp : RestyResponse) : Prop := 399 < resp.statusCode

/-- `interactionerror.InteractionError`, made of an answer that is an error. -/
structure InteractionError where
  statusCode : ℕ
  isError : 399 < statusCode
  statusCode_le : statusCode ≤ 999
  correlationHeaders : List (String × String)
  rawMessage : Bytes

/-- `newError` of `duckgo/visa` -/
def Visa.newError (requestID : String) (resp : RestyResponse) (hresp : resp.IsError) :
    InteractionError where
  statusCode := resp.statusCode
  isError := hresp
  statusCode_le := resp.statusCode_le
  correlationHeaders :=
    [("VTS-Request-ID", requestID), ("VTS-Response-ID", resp.header "X-Response-Id"),
      ("VTS-Correlation-ID", resp.header "X-Correlation-Id")]
  rawMessage := resp.body

/-- `newError` of `duckgo/mastercard`, with `resty.IsJSONType` -/
def Mastercard.newError (isJSONType : String → Bool) (srcCorrelationID : String)
    (resp : RestyResponse) (hresp : resp.IsError) : InteractionError where
  statusCode := resp.statusCode
  isError := hresp
  statusCode_le := resp.statusCode_le
  correlationHeaders :=
    [("X-SRC-Correlation-ID", srcCorrelationID),
      ("X-MC-Correlation-ID", resp.header "X-MC-Correlation-ID"),
      ("X-VCAP-Request-ID", resp.header "X-Vcap-Request-Id"),
      ("X-HDR-Correlation-ID", resp.header "correlation-id")]
  rawMessage := if isJSONType (resp.header "Content-Type") then resp.body else []

namespace Server

/-! ### Documents -/

/-- What is encoded; `ρ` is the data of a response. -/
inductive Document (ρ : Type)
  /-- `api.Response` with `api.StatusSuccess`. -/
  | success (code : ℕ) (data : ρ)
  /-- `api.Response` with `api.StatusFail`, of `api.WriteGenericError`. -/
  | genericError (code : ℕ) (message : Code) (description : GoError)
  | internalAPIError (code : ℕ) (data : Bytes)
  /-- Data that is no `api.Response`. -/
  | bare (data : ρ)

def Document.Success {ρ : Type} : Document ρ → Prop
  | .success _ _ => True
  | .genericError _ _ _ => False
  | .internalAPIError _ _ => False
  | .bare _ => True

/-- What the answers depend on outside the repository. -/
structure Encoding where
  /-- The bytes are a JSON value. -/
  valid : Bytes → Bool
  /-- The type assertion to `interactionerror.InteractionError`. -/
  asInteractionError : GoError → Option InteractionError

variable {ρ : Type} (e : Encoding)

/-- A raw message that is nil, or a JSON value. -/
def Encoding.Writable (raw : Bytes) : Prop := raw = [] ∨ e.valid raw = true

instance (raw : Bytes) : Decidable (e.Writable raw) := inferInstanceAs (Decidable (_ ∨ _))

theorem Encoding.writable_of_mem_nil : ∀ raw ∈ ([] : List Bytes), e.Writable raw :=
  fun _ hraw ↦ absurd hraw List.not_mem_nil

/-- `Encode` of `json.Encoder`, whose error is only logged, of a document with raw messages. -/
def Encoding.encode (rawMessages : List Bytes) (document : Document ρ) :
    Handling (Document ρ) Unit :=
  if ∀ raw ∈ rawMessages, e.Writable raw then Handling.write document else pure ()

def contentType : String × String := ("Content-Type", "application/json; charset=utf-8")

/-- `sendAPIResponse` of data with raw messages -/
def sendAPIResponse (statusCode : ℕ) (rawMessages : List Bytes) (data : ρ) :
    Handling (Document ρ) Unit := do
  Handling.setHeader contentType.1 contentType.2
  Handling.writeHeader statusCode
  e.encode rawMessages (.success statusCode data)

/-- `sendAPIError` -/
def sendAPIError (statusCode : ℕ) (messageCode : Code) (description : GoError) :
    Handling (Document ρ) Unit := do
  Handling.setHeader contentType.1 contentType.2
  Handling.writeHeader statusCode
  e.encode [] (.genericError statusCode messageCode description)

/-- `handleJSONError` -/
def handleJSONError (err : GoError) : Handling (Document ρ) Unit :=
  match e.asInteractionError err with
  | none => sendAPIError e StatusInternalServerError .CodeInternal err
  | some cerr => do
    Handling.setHeader contentType.1 contentType.2
    Handling.setHeaders cerr.correlationHeaders
    Handling.setHeader "X-Content-Type-Options" "nosniff"
    Handling.writeHeader cerr.statusCode
    e.encode [cerr.rawMessage] (.internalAPIError cerr.statusCode cerr.rawMessage)

/-- What a checkout handler writes at its end. -/
def Failure.answer : Failure → Handling (Document ρ) Unit
  | .sendError statusCode messageCode description =>
    sendAPIError e statusCode messageCode description
  | .handleJSONError _ error => Server.handleJSONError e error
  | .panic => Handling.panic

/-! ### One response -/

/-- The handler answers a request with one response. -/
abbrev AnswersOnce (m : Handling (Document ρ) Unit) : Prop := OneResponse Document.Success m

/-- The answer to a failure is one response. -/
def Refuses (answer : Handling (Document ρ) Unit) : Prop :=
  AnswersOnce (Handling.fail answer)

/-- The raw message of an error, if it has one, is written. -/
def Encoding.WritableError (err : GoError) : Prop :=
  ∀ cerr, e.asInteractionError err = some cerr → e.Writable cerr.rawMessage

variable {e}

theorem sendAPIResponse_eq {statusCode : ℕ} {rawMessages : List Bytes} {data : ρ}
    (hcode : 100 ≤ statusCode ∧ statusCode ≤ 999)
    (hraw : ∀ raw ∈ rawMessages, e.Writable raw) :
    sendAPIResponse e statusCode rawMessages data =
      ⟨[.setHeader contentType.1 contentType.2, .writeHeader statusCode,
        .write (.success statusCode data)], .next ()⟩ := by
  rw [sendAPIResponse, Handling.writeHeader, if_pos hcode, Encoding.encode, if_pos hraw]
  rfl

theorem sendAPIError_eq {statusCode : ℕ} {messageCode : Code} {description : GoError}
    (hcode : 100 ≤ statusCode ∧ statusCode ≤ 999) :
    (sendAPIError e statusCode messageCode description : Handling (Document ρ) Unit) =
      ⟨[.setHeader contentType.1 contentType.2, .writeHeader statusCode,
        .write (.genericError statusCode messageCode description)], .next ()⟩ := by
  rw [sendAPIError, Handling.writeHeader, if_pos hcode, Encoding.encode,
    if_pos e.writable_of_mem_nil]
  rfl

theorem answersOnce_sendAPIResponse {statusCode : ℕ} {rawMessages : List Bytes} {data : ρ}
    (hcode : 100 ≤ statusCode ∧ statusCode ≤ 999)
    (hraw : ∀ raw ∈ rawMessages, e.Writable raw) :
    AnswersOnce (sendAPIResponse e statusCode rawMessages data) := by
  rw [AnswersOnce, sendAPIResponse_eq hcode hraw]
  exact oneResponse_setHeader.mpr (oneResponse_writeHeader (Exit.next_ne_panicked _))

/-- Events that end with the status and the document of an error. -/
theorem refuses_of_trace {answer : Handling (Document ρ) Unit} {document : Document ρ}
    {statusCode : ℕ} (headers : List (String × String)) (hcode : 399 < statusCode)
    (hdocument : ¬ document.Success)
    (hanswer : answer = ⟨headers.map (fun header ↦ .setHeader header.1 header.2) ++
      [.writeHeader statusCode, .write document], .next ()⟩) : Refuses answer := by
  rw [Refuses, hanswer, Handling.fail_of_next]
  refine oneResponse_failed.mpr ⟨oneResponse_setHeaders.mpr (oneResponse_writeHeader ?_), ?_⟩
  · exact Exit.returned_ne_panicked
  · exact noSuccess_setHeaders.mpr (noSuccess_writeHeader (by omega) hdocument)

/-- An error that is sent is one response, when its status is that of an error. -/
theorem refuses_sendAPIError {statusCode : ℕ} {messageCode : Code} {description : GoError}
    (hcode : 399 < statusCode ∧ statusCode ≤ 999) :
    Refuses (sendAPIError e statusCode messageCode description : Handling (Document ρ) Unit) := by
  refine @refuses_of_trace ρ _ (.genericError statusCode messageCode description) _ [contentType]
    hcode.1 id ?_
  exact sendAPIError_eq ⟨by omega, hcode.2⟩

/-- An error of a card network is answered once exactly when its raw message is written. -/
theorem refuses_handleJSONError {err : GoError} :
    Refuses (handleJSONError e err : Handling (Document ρ) Unit) ↔ e.WritableError err := by
  rw [handleJSONError, Encoding.WritableError]
  cases hcerr : e.asInteractionError err with
  | none =>
    refine iff_of_true (refuses_sendAPIError ?_) (fun cerr h ↦ nomatch h)
    decide
  | some cerr =>
    have hstatus : 100 ≤ cerr.statusCode ∧ cerr.statusCode ≤ 999 :=
      ⟨by have := cerr.isError; omega, cerr.statusCode_le⟩
    have hforall : (∀ other, some cerr = some other → e.Writable other.rawMessage) ↔
        e.Writable cerr.rawMessage := by
      refine ⟨fun h ↦ h cerr rfl, fun h other hother ↦ ?_⟩
      exact Option.some.inj hother ▸ h
    rw [hforall]
    dsimp only
    rw [Handling.writeHeader, if_pos hstatus, Encoding.encode]
    by_cases hraw : e.Writable cerr.rawMessage
    · rw [if_pos fun raw h ↦ List.mem_singleton.mp h ▸ hraw]
      refine iff_of_true (@refuses_of_trace ρ _
        (.internalAPIError cerr.statusCode cerr.rawMessage) _
        (contentType :: cerr.correlationHeaders ++ [("X-Content-Type-Options", "nosniff")])
        cerr.isError id ?_) hraw
      rw [List.map_append, List.append_assoc]
      rfl
    · rw [if_neg fun h ↦ hraw (h _ List.mem_cons_self)]
      refine iff_of_false (not_oneResponse_of_documents ?_) hraw
      change documents ((cerr.correlationHeaders.map _ ++ [_, _]) ++ []) = []
      rw [List.append_nil]
      exact documents_setHeaders cerr.correlationHeaders

end Server

end YandexPay
