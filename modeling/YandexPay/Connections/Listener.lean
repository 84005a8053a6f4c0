import YandexPay.Library.JsValue

/-!
# Messages between windows

`packages/utils/connections` of the pay frontend: `ConnectionOptions`, `ConnectionMessage`,
`ConnectionListener.processMessage` and `MessageConnectionListener`. A listener whose target has an
origin emits the payload of a browser message when the origin of the message passes its check. The
origin of a message is read from its source url, and a source url that `URL` does not parse gives
the origin that stands for every origin.

`Browser` holds the functions of the page that the listener uses, with what the URL standard says
of origins. `emitted_only_from_target_iff` is the exact condition under which a listener emits
nothing that comes from elsewhere.
-/

set_option autoImplicit false
set_option relaxedAutoImplicit false

namespace YandexPay.Connections

def ANY_ORIGIN : String := "*"

def ANY_CHANNEL : String := "*"

def DEFAULT_URL : String := "/"

/-! ### The browser -/

/-- `URL` and `JSON.parse`, on the values `δ` that windows post to each other. -/
structure Browser (δ : Type) where
  /-- `new URL(url).origin`; `none` when the constructor throws. -/
  urlOrigin : String → Option String
  /-- `JSON.parse(data)`; `none` when it throws. -/
  jsonParse : δ → Option JsValue
  origin_ne_empty : ∀ url origin, urlOrigin url = some origin → origin ≠ ""
  origin_ne_any : ∀ url origin, urlOrigin url = some origin → origin ≠ ANY_ORIGIN
  /-- An origin without a scheme is no URL. -/
  urlOrigin_empty : urlOrigin "" = none
  urlOrigin_null : urlOrigin "null" = none

variable {δ : Type} (browser : Browser δ)

/-- A `message` event. The origin of its sender is empty, opaque, or an origin that parses to
itself. -/
structure MessageEvent where
  data : δ
  origin : String
  valid : origin = "" ∨ origin = "null" ∨ browser.urlOrigin origin = some origin

/-- `getOrigin` -/
def getOrigin (url : String) (fallback : String := "") : String :=
  (browser.urlOrigin url).getD fallback

/-- `getOrigin` of a value from a message, which `URL` converts to a text. -/
def getOriginOf (url : JsValue) (fallback : String := "") : String :=
  match url.toText with
  | some text => getOrigin browser text fallback
  | none => fallback

/-! ### Options and messages -/

structure ConnectionOptions where
  targetUrl : String := DEFAULT_URL
  channel : String := ANY_CHANNEL

/-- `ConnectionOptions.targetOrigin` -/
def ConnectionOptions.targetOrigin (options : ConnectionOptions) : String :=
  orElseText (getOrigin browser options.targetUrl) ANY_ORIGIN

structure ConnectionMessage where
  payload : Option JsValue
  channel : JsValue
  sourceUrl : Option JsValue

/-- The constructor of `ConnectionMessage`; a channel that is `undefined` is any channel. -/
def ConnectionMessage.create (payload channel sourceUrl : Option JsValue) : ConnectionMessage where
  payload := payload
  channel := channel.getD (.string ANY_CHANNEL)
  sourceUrl := sourceUrl

/-- `ConnectionMessage.origin` -/
def ConnectionMessage.origin (message : ConnectionMessage) : String :=
  match message.sourceUrl with
  | some url => if url.truthy then orElseText (getOriginOf browser url) ANY_ORIGIN else ANY_ORIGIN
  | none => ANY_ORIGIN

/-! ### The listener -/

inductive ConnectionError
  | syntaxError
  | typeError
  | differentOrigin (messageOrigin targetOrigin : String)
  | differentChannel (messageChannel targetOrigin : String)
  deriving DecidableEq, Repr

/-- The texts of the two errors that `processMessage` throws; the second one names the target
origin as the current channel. -/
def ConnectionError.message : ConnectionError → Option String
  | .differentOrigin messageOrigin targetOrigin =>
    some <| "Failed to process a message with a different origin\n" ++
      " message origin — " ++ messageOrigin ++ "\n" ++ " target origin — " ++ targetOrigin
  | .differentChannel messageChannel targetOrigin =>
    some <| "Failed to process a message with a different channel\n" ++
      " message channel — " ++ messageChannel ++ "\n" ++ " current channel — " ++ targetOrigin
  | _ => none

/-- The channel check of `processMessage`. -/
def ConnectionOptions.acceptsChannel (options : ConnectionOptions) (channel : JsValue) : Bool :=
  channel.isText options.channel || channel.isText ANY_CHANNEL || options.channel = ANY_CHANNEL

/-- `ConnectionListener.processMessage`; the result is what it emits. -/
def processMessage (options : ConnectionOptions) (message : ConnectionMessage) :
    Except ConnectionError (Option JsValue × ConnectionMessage) :=
  let origin := message.origin browser
  let targetOrigin := options.targetOrigin browser
  if origin ≠ targetOrigin ∧ origin ≠ ANY_ORIGIN ∧ targetOrigin ≠ ANY_ORIGIN then
    .error (.differentOrigin origin targetOrigin)
  else if options.acceptsChannel message.channel then
    .ok (message.payload, message)
  else
    match message.channel.toText with
    | some channel => .error (.differentChannel channel targetOrigin)
    | none => .error .typeError

variable {browser}

/-- The message names a source url of the origin of the event. -/
def MessageEvent.confirms (event : MessageEvent browser) (sourceUrl : Option JsValue) : Bool :=
  match sourceUrl with
  | some url => url.truthy && getOriginOf browser url = event.origin
  | none => false

/-- The source url of `createMessage`: the one that the message names, when its origin is that of
the event, and else the origin of the event. -/
def MessageEvent.sourceUrl (event : MessageEvent browser) (sourceUrl : Option JsValue) : JsValue :=
  if event.confirms sourceUrl then sourceUrl.getD .null else .string event.origin

/-- `MessageConnectionListener.createMessage` -/
def createMessage (event : MessageEvent browser) : Except ConnectionError ConnectionMessage :=
  match browser.jsonParse event.data with
  | none => .error .syntaxError
  | some data =>
    match data.get? "sourceUrl", data.get? "payload", data.get? "channel" with
    | some sourceUrl, some payload, some channel =>
      .ok (.create payload channel (some (event.sourceUrl sourceUrl)))
    | _, _, _ => .error .typeError

/-- `MessageConnectionListener.onMessage`: what is emitted, if anything. -/
def onMessage (options : ConnectionOptions) (event : MessageEvent browser) :
    Option (Option JsValue × ConnectionMessage) :=
  match (createMessage event).bind (processMessage browser options) with
  | .ok emitted => some emitted
  | .error _ => none

/-! ### What is emitted -/

section Emitted

variable {event : MessageEvent browser} {options : ConnectionOptions}

/-- The sender cannot be told from any other: its origin is empty, or it is opaque and the message
names no source url that is opaque too. -/
def MessageEvent.Unidentified (event : MessageEvent browser) (sourceUrl : Option JsValue) : Prop :=
  event.origin = "" ∨ (event.origin = "null" ∧ event.confirms sourceUrl = false)

theorem MessageEvent.confirms_eq_true {sourceUrl : Option JsValue}
    (h : event.confirms sourceUrl = true) :
    ∃ url, sourceUrl = some url ∧ url.truthy = true ∧ getOriginOf browser url = event.origin := by
  cases sourceUrl with
  | none => cases h
  | some url =>
    obtain ⟨htruthy, horigin⟩ := Bool.and_eq_true_iff.mp h
    exact ⟨url, rfl, htruthy, of_decide_eq_true horigin⟩

/-- The origin of a message with the source url of `createMessage`. -/
theorem origin_of_sourceUrl {message : ConnectionMessage} {sourceUrl : Option JsValue}
    (h : message.sourceUrl = some (event.sourceUrl sourceUrl)) :
    message.origin browser =
      if event.confirms sourceUrl then orElseText event.origin ANY_ORIGIN
      else orElseText (getOrigin browser event.origin) ANY_ORIGIN := by
  unfold ConnectionMessage.origin MessageEvent.sourceUrl at *
  rw [h]
  cases hconfirms : event.confirms sourceUrl with
  | true =>
    obtain ⟨url, rfl, htruthy, horigin⟩ := MessageEvent.confirms_eq_true hconfirms
    simp only [if_true, Option.getD_some, htruthy, horigin]
  | false =>
    simp only [Bool.false_eq_true, if_false]
    by_cases hempty : event.origin = ""
    · rw [hempty, getOrigin, browser.urlOrigin_empty]
      rfl
    · have htruthy : (JsValue.string event.origin).truthy = true := decide_eq_true hempty
      rw [if_pos htruthy]
      rfl

theorem orElseText_of_ne {value fallback : String} (h : value ≠ "") :
    orElseText value fallback = value := if_neg h

/-- A message of an identified sender has the origin of the event, any other message has any
origin. -/
theorem origin_eq (event : MessageEvent browser) (sourceUrl : Option JsValue)
    {message : ConnectionMessage} (h : message.sourceUrl = some (event.sourceUrl sourceUrl)) :
    (event.Unidentified sourceUrl ∧ message.origin browser = ANY_ORIGIN) ∨
      (¬ event.Unidentified sourceUrl ∧ event.origin ≠ ANY_ORIGIN ∧
        message.origin browser = event.origin) := by
  rw [origin_of_sourceUrl h]
  unfold MessageEvent.Unidentified
  rcases event.valid with hempty | hnull | hself
  · refine Or.inl ⟨Or.inl hempty, ?_⟩
    rw [hempty, getOrigin, browser.urlOrigin_empty]
    split_ifs <;> rfl
  · rw [hnull, getOrigin, browser.urlOrigin_null]
    cases hconfirms : event.confirms sourceUrl with
    | true =>
      refine Or.inr ⟨?_, by decide, rfl⟩
      rintro (h | ⟨-, h⟩)
      · exact absurd h (by decide)
      · cases h
    | false => exact Or.inl ⟨Or.inr ⟨rfl, rfl⟩, rfl⟩
  · have hne : event.origin ≠ "" := browser.origin_ne_empty _ _ hself
    have hnotNull : event.origin ≠ "null" := by
      intro h
      rw [h, browser.urlOrigin_null] at hself
      cases hself
    have hparsed : getOrigin browser event.origin = event.origin := by
      rw [getOrigin, hself, Option.getD_some]
    refine Or.inr ⟨?_, browser.origin_ne_any _ _ hself, ?_⟩
    · rintro (h | ⟨h, -⟩)
      · exact hne h
      · exact hnotNull h
    · rw [hparsed, orElseText_of_ne hne, ite_self]

/-- What `processMessage` lets through. -/
theorem processMessage_eq_ok {message : ConnectionMessage}
    {emitted : Option JsValue × ConnectionMessage} :
    processMessage browser options message = .ok emitted ↔
      (message.origin browser = options.targetOrigin browser ∨
        message.origin browser = ANY_ORIGIN ∨ options.targetOrigin browser = ANY_ORIGIN) ∧
      options.acceptsChannel message.channel = true ∧ emitted = (message.payload, message) := by
  unfold processMessage
  by_cases horigin : message.origin browser ≠ options.targetOrigin browser ∧
      message.origin browser ≠ ANY_ORIGIN ∧ options.targetOrigin browser ≠ ANY_ORIGIN
  · simp only [if_pos horigin]
    constructor
    · intro h
      cases h
    · rintro ⟨h | h | h, -⟩
      · exact absurd h horigin.1
      · exact absurd h horigin.2.1
      · exact absurd h horigin.2.2
  · simp only [if_neg horigin]
    have hpasses : message.origin browser = options.targetOrigin browser ∨
        message.origin browser = ANY_ORIGIN ∨ options.targetOrigin browser = ANY_ORIGIN := by
      tauto
    cases hchannel : options.acceptsChannel message.channel with
    | true =>
      simp only [if_true, Except.ok.injEq, true_and]
      exact ⟨fun h ↦ ⟨hpasses, h.symm⟩, fun h ↦ h.2.symm⟩
    | false =>
      simp only [Bool.false_eq_true, if_false, false_and, and_false, iff_false]
      cases message.channel.toText <;> intro h <;> cases h

/-- The fields that `createMessage` reads. -/
structure MessageEvent.Reads (event : MessageEvent browser)
    (sourceUrl payload channel : Option JsValue) : Prop where
  fields : ∃ data, browser.jsonParse event.data = some data ∧
    data.get? "sourceUrl" = some sourceUrl ∧ data.get? "payload" = some payload ∧
    data.get? "channel" = some channel

theorem createMessage_eq_ok {message : ConnectionMessage} :
    createMessage event = .ok message ↔ ∃ sourceUrl payload channel,
      event.Reads sourceUrl payload channel ∧
        message = .create payload channel (some (event.sourceUrl sourceUrl)) := by
  unfold createMessage
  cases hdata : browser.jsonParse event.data with
  | none =>
    constructor
    · intro h
      cases h
    · rintro ⟨sourceUrl, payload, channel, ⟨data, hparse, -⟩, -⟩
      rw [hdata] at hparse
      cases hparse
  | some data =>
    by_cases hnull : data = .null
    · subst hnull
      constructor
      · intro h
        cases h
      · rintro ⟨sourceUrl, payload, channel, ⟨data, hparse, hsource, -⟩, -⟩
        obtain rfl := Option.some.inj (hdata.symm.trans hparse)
        cases hsource
    · obtain ⟨sourceUrl, hsource⟩ := Option.ne_none_iff_exists'.mp
        (mt JsValue.get?_eq_none.mp hnull : data.get? "sourceUrl" ≠ none)
      obtain ⟨payload, hpayload⟩ := Option.ne_none_iff_exists'.mp
        (mt JsValue.get?_eq_none.mp hnull : data.get? "payload" ≠ none)
      obtain ⟨channel, hchannel⟩ := Option.ne_none_iff_exists'.mp
        (mt JsValue.get?_eq_none.mp hnull : data.get? "channel" ≠ none)
      simp only [hsource, hpayload, hchannel, Except.ok.injEq]
      constructor
      · rintro rfl
        exact ⟨sourceUrl, payload, channel, ⟨data, hdata, hsource, hpayload, hchannel⟩, rfl⟩
      · rintro ⟨s, p, c, ⟨d, hparse, hs, hp, hc⟩, rfl⟩
        obtain rfl := Option.some.inj (hdata.symm.trans hparse)
        obtain rfl := Option.some.inj (hsource.symm.trans hs)
        obtain rfl := Option.some.inj (hpayload.symm.trans hp)
        obtain rfl := Option.some.inj (hchannel.symm.trans hc)
        rfl

theorem onMessage_eq_some {emitted : Option JsValue × ConnectionMessage} :
    onMessage options event = some emitted ↔ ∃ message,
      createMessage event = .ok message ∧ processMessage browser options message = .ok emitted := by
  unfold onMessage
  cases createMessage event with
  | error e => simp [Except.bind]
  | ok message =>
    cases hprocess : processMessage browser options message with
    | error e => simp [Except.bind, hprocess]
    | ok result => simp [Except.bind, hprocess]

/-- The sender is not identified and not the target, yet its message is readable and on an accepted
channel. -/
structure LosesOrigin (options : ConnectionOptions) (event : MessageEvent browser) : Prop where
  other : event.origin ≠ options.targetOrigin browser
  message : ∃ sourceUrl payload channel, event.Reads sourceUrl payload channel ∧
    event.Unidentified sourceUrl ∧
    options.acceptsChannel (channel.getD (.string ANY_CHANNEL)) = true

end Emitted

/-- Assumes: the target has an origin. A listener emits only what comes from the target exactly
when the sender of the event does not lose its origin. -/
theorem emitted_only_from_target_iff {δ : Type} (browser : Browser δ) (options : ConnectionOptions)
    (event : MessageEvent browser) (hconcrete : options.targetOrigin browser ≠ ANY_ORIGIN) :
    (∀ payload message, onMessage options event = some (payload, message) →
      event.origin = options.targetOrigin browser) ↔ ¬ LosesOrigin options event := by
  constructor
  · rintro hemits ⟨hother, sourceUrl, payload, channel, hreads, hunidentified, hchannel⟩
    refine hother (hemits payload
      (.create payload channel (some (event.sourceUrl sourceUrl))) ?_)
    refine onMessage_eq_some.mpr ⟨_,
      createMessage_eq_ok.mpr ⟨sourceUrl, payload, channel, hreads, rfl⟩,
      processMessage_eq_ok.mpr ⟨Or.inr (Or.inl ?_), hchannel, rfl⟩⟩
    have hmessage : (ConnectionMessage.create payload channel
        (some (event.sourceUrl sourceUrl))).sourceUrl = some (event.sourceUrl sourceUrl) := rfl
    rcases origin_eq event sourceUrl hmessage with ⟨-, hany⟩ | ⟨hidentified, -⟩
    · exact hany
    · exact absurd hunidentified hidentified
  · intro hkeeps payload message hemitted
    obtain ⟨created, hcreate, hprocess⟩ := onMessage_eq_some.mp hemitted
    obtain ⟨sourceUrl, payload, channel, hreads, rfl⟩ := createMessage_eq_ok.mp hcreate
    obtain ⟨horigin, hchannel, -⟩ := processMessage_eq_ok.mp hprocess
    by_contra hother
    have hmessage : (ConnectionMessage.create payload channel
        (some (event.sourceUrl sourceUrl))).sourceUrl = some (event.sourceUrl sourceUrl) := rfl
    rcases origin_eq event sourceUrl hmessage with ⟨hunidentified, -⟩ | ⟨-, hne, hsame⟩
    · exact hkeeps ⟨hother, sourceUrl, payload, channel, hreads, hunidentified, hchannel⟩
    · rw [hsame] at horigin
      rcases horigin with h | h | h
      · exact hother h
      · exact hne h
      · exact hconcrete h

/-! ### A sandboxed sender -/

def httpsHost (url : String) : List Char := (url.toList.drop 8).takeWhile fun c ↦ c ≠ '/'

/-- `new URL(url).origin` of `https` urls without port and credentials. -/
def httpsOrigin (url : String) : Option String :=
  if url.toList.take 8 = "https://".toList ∧ httpsHost url ≠ [] then
    some (String.ofList ("https://".toList ++ httpsHost url))
  else none

theorem httpsOrigin_eq_some {url origin : String} (h : httpsOrigin url = some origin) :
    ∃ host, origin.toList = "https://".toList ++ host := by
  unfold httpsOrigin at h
  split_ifs at h
  obtain rfl := Option.some.inj h
  exact ⟨_, String.toList_ofList⟩

/-- `JSON.parse` of one message. -/
def concreteBrowser : Browser String where
  urlOrigin := httpsOrigin
  jsonParse := fun data ↦
    if data = "\x7b\"payload\":1\x7d" then some (.object [("payload", .number "1")]) else none
  origin_ne_empty := by
    rintro url origin h rfl
    obtain ⟨host, hhost⟩ := httpsOrigin_eq_some h
    cases hhost
  origin_ne_any := by
    rintro url origin h rfl
    obtain ⟨host, hhost⟩ := httpsOrigin_eq_some h
    cases hhost
  urlOrigin_empty := by decide
  urlOrigin_null := by decide

def concreteOptions : ConnectionOptions where
  targetUrl := "https://pay.invalid/form"
  channel := "form"

/-- An event of a sandboxed frame. -/
def sandboxedEvent : MessageEvent concreteBrowser where
  data := "\x7b\"payload\":1\x7d"
  origin := "null"
  valid := Or.inr (Or.inl rfl)

/-- The payload of the sandboxed frame is emitted by a listener for another origin. -/
theorem sandboxed_message_emitted :
    concreteOptions.targetOrigin concreteBrowser = "https://pay.invalid" ∧
      sandboxedEvent.origin ≠ concreteOptions.targetOrigin concreteBrowser ∧
      (onMessage concreteOptions sandboxedEvent).map Prod.fst = some (some (.number "1")) := by
  refine ⟨by decide, by decide, rfl⟩

/-- The same message from another site, whose origin is kept. -/
def foreignEvent : MessageEvent concreteBrowser where
  data := "\x7b\"payload\":1\x7d"
  origin := "https://other.invalid"
  valid := Or.inr (Or.inr (by decide))

theorem emitted_only_from_target_iff_witness : onMessage concreteOptions foreignEvent = none := by
  have hkeeps : ¬ LosesOrigin concreteOptions foreignEvent := by
    rintro ⟨-, sourceUrl, payload, channel, -, hunidentified, -⟩
    rcases hunidentified with h | ⟨h, -⟩
    · exact absurd h (by decide)
    · exact absurd h (by decide)
  have honly := (emitted_only_from_target_iff concreteBrowser concreteOptions foreignEvent
    (by decide)).mpr hkeeps
  by_contra hemitted
  obtain ⟨⟨payload, message⟩, hsome⟩ := Option.ne_none_iff_exists'.mp hemitted
  exact absurd (honly payload message hsome) (by decide)

end YandexPay.Connections
