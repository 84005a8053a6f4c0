import YandexPay.Connections.Listener
import YandexPay.Connections.DataUrl
import YandexPay.Library.Transition

/-!
# The connection manager

`ConnectionManager`, `QueryConnectionListener` and `QueryConnectionEmitter` of
`packages/utils/connections`. A page that is opened by another one finds a message in its own URL.
The manager reads it once, in a timer of its constructor, and a manager without a target takes the
sender of that message as its target; the messages of other windows are then checked against it.

`Trusts` is the invariant of all runs of a manager: the target is set at most once and by the
message of the URL alone, that message is delivered at most once, and everything delivered after it
comes from the target, or from a sender that cannot be told from any other. What a window posts
before the timer fires is checked against no target at all.

`handshake` is the protocol of the two sides, as the docstring of the class draws it: the opened
page gets the payload and the URL of its opener, the answer reaches the opener by a redirect and by
a posted message, and an opener that has taken the answer from its URL removes it there, so that
a reload does not deliver it again.
-/

set_option autoImplicit false
set_option relaxedAutoImplicit false

namespace YandexPay.Connections

open YandexPay.Transition
open YandexPay.Url (IsUrl getDataFromUrl setDataToUrl removeDataFromUrl
  setSearchParams_dataParams)
open YandexPay.JsUri (Text text IsWellFormed toChars)

/-! ### The page -/

/-- A browser whose windows exchange texts, with `JSON.stringify`. -/
structure Page extends Browser Text where
  jsonStringify : JsValue → Text
  jsonParse_empty : jsonParse [] = none
  /-- A path without a base is no URL. -/
  urlOrigin_default : urlOrigin DEFAULT_URL = none
  stringify_wellFormed : ∀ value, IsWellFormed (jsonStringify value)

/-- `window.location.toString()` -/
def getSource (location : Text) : String := String.ofList ((toChars location).getD [])

theorem text_getSource {location : Text} (h : IsWellFormed location) :
    text (getSource location) = location := by
  obtain ⟨chars, rfl⟩ := h
  rw [getSource, JsUri.toChars_ofChars, Option.getD_some, text, String.toList_ofList]

/-- `ConnectionMessage.toJSON`; `JSON.stringify` drops a payload that is `undefined`. -/
def ConnectionMessage.toJSON (message : ConnectionMessage) : JsValue :=
  .object <|
    (message.payload.map fun payload ↦ ("payload", payload)).toList ++
      [("channel", message.channel)] ++
        ((message.sourceUrl.filter JsValue.truthy).map fun url ↦ ("sourceUrl", url)).toList

/-- What a subscriber of the manager is called with, and the origin of the event behind it; the
message of the URL has no event. -/
structure Delivery where
  payload : Option JsValue
  message : ConnectionMessage
  sender : Option String

/-- A manager with its two listeners; deliveries are listed with the latest first. -/
structure ConnectionManager where
  targetUrl : JsValue := .string DEFAULT_URL
  channel : String := ANY_CHANNEL
  location : Text
  /-- The timer of the query listener has neither fired nor been cleared. -/
  processTimeout : Bool := true
  /-- The message listener is registered. -/
  listening : Bool := true
  delivered : List Delivery := []

namespace ConnectionManager

variable (page : Page) (manager : ConnectionManager)

/-- The options as the listeners read them: `URL` converts a target that is no text. -/
def options : ConnectionOptions := ⟨manager.targetUrl.toText.getD "", manager.channel⟩

/-- `ConnectionOptions.isInitialized` -/
def isInitialized : Bool := !manager.targetUrl.isText DEFAULT_URL

/-- `ConnectionOptions.targetOrigin` -/
def targetOrigin : String := manager.options.targetOrigin page.toBrowser

/-! ### Receiving -/

/-- `QueryConnectionListener.createMessage`; `none` when a part of the URL cannot be decoded, or
the data are no JSON value with properties. -/
def createMessage (location : Text) : Option ConnectionMessage := do
  let json ← getDataFromUrl location
  let data ← page.jsonParse json
  let payload ← data.get? "payload"
  let channel ← data.get? "channel"
  let sourceUrl ← data.get? "sourceUrl"
  return .create payload channel sourceUrl

/-- `clearSource`; a URL that cannot be read again is left. -/
def clearSource : ConnectionManager :=
  match removeDataFromUrl manager.location with
  | some clearedUrl => { manager with location := clearedUrl }
  | none => manager

/-- `message.sourceUrl || DEFAULT_URL` -/
def targetOf (message : ConnectionMessage) : JsValue :=
  (message.sourceUrl.filter JsValue.truthy).getD (.string DEFAULT_URL)

/-- `updateOptions` -/
def updateOptions (message : ConnectionMessage) : ConnectionManager :=
  { manager with targetUrl := targetOf message }

/-- `onOptionsMessage` -/
def onOptionsMessage (message : ConnectionMessage) : ConnectionManager :=
  if manager.isInitialized then manager.clearSource else manager.updateOptions message

/-- The `onMessage` of the manager: the subscribers are called. -/
def deliver (emitted : Option JsValue × ConnectionMessage) (sender : Option String) :
    ConnectionManager :=
  { manager with delivered := ⟨emitted.1, emitted.2, sender⟩ :: manager.delivered }

/-- `QueryConnectionListener.onProcess`: the subscribers of the manager come first, its options
second. -/
def onProcess : ConnectionManager :=
  match createMessage page manager.location with
  | none => manager
  | some message =>
    match processMessage page.toBrowser manager.options message with
    | .error _ => manager
    | .ok emitted => (manager.deliver emitted none).onOptionsMessage message

/-- `MessageConnectionListener.onMessage` -/
def onEvent (event : MessageEvent page.toBrowser) : ConnectionManager :=
  match onMessage manager.options event with
  | none => manager
  | some emitted => manager.deliver emitted (some event.origin)

/-- `destroy` -/
def destroy : ConnectionManager := { manager with processTimeout := false, listening := false }

inductive Event (page : Page)
  | timer
  | message (event : MessageEvent page.toBrowser)
  | destroy

def step (manager : ConnectionManager) : Event page → Option ConnectionManager
  | .timer =>
    if manager.processTimeout then some ({ manager with processTimeout := false }.onProcess page)
    else none
  | .message event =>
    if manager.listening then some (manager.onEvent page event) else some manager
  | .destroy => some manager.destroy

/-- The managers of a page, from their constructor on. -/
def managers : System ConnectionManager (Event page) where
  start := fun manager ↦
    manager.processTimeout = true ∧ manager.listening = true ∧ manager.delivered = []
  step := step page

/-! ### Sending -/

/-- `QueryConnectionEmitter.createMessage` -/
def createQuery (noEmitSourceUrl : Bool) (payload : Option JsValue) : ConnectionMessage :=
  .create payload (some (.string manager.channel))
    (if noEmitSourceUrl then none else some (.string (getSource manager.location)))

/-- `QueryConnectionEmitter.constructUrl`; `none` when it throws. -/
def constructUrl (noEmitSourceUrl : Bool) (payload : Option JsValue) : Option Text :=
  match manager.targetUrl with
  | .string url =>
    setDataToUrl (text url)
      (page.jsonStringify (manager.createQuery noEmitSourceUrl payload).toJSON)
  | _ => none

/-- `MessageConnectionEmitter.createMessage` -/
def createPost (payload : Option JsValue) : ConnectionMessage :=
  .create payload (some (.string manager.channel)) (some (.string (getSource manager.location)))

end ConnectionManager

/-- `QueryConnectionEmitter`, which sends once. -/
structure QueryConnectionEmitter where
  manager : ConnectionManager
  noEmitSourceUrl : Bool := false
  isSent : Bool := false
  redirects : List Text := []

namespace QueryConnectionEmitter

inductive Call
  | send (payload : Option JsValue)
  | destroy

/-- One call; a `send` that throws leaves the emitter as it is. -/
def call (page : Page) (emitter : QueryConnectionEmitter) : Call → QueryConnectionEmitter
  | .send payload =>
    if emitter.isSent then emitter
    else
      match emitter.manager.constructUrl page emitter.noEmitSourceUrl payload with
      | some url => { emitter with redirects := url :: emitter.redirects, isSent := true }
      | none => emitter
  | .destroy => { emitter with isSent := true }

/-- Whatever is called, the page is redirected at most once. -/
theorem redirects_le_one (page : Page) (calls : List Call) (emitter : QueryConnectionEmitter)
    (hnew : emitter.redirects = []) :
    (calls.foldl (call page) emitter).redirects.length ≤ 1 := by
  have hkeeps : ∀ (calls : List Call) (emitter : QueryConnectionEmitter),
      emitter.redirects.length ≤ 1 → (emitter.isSent = false → emitter.redirects = []) →
        (calls.foldl (call page) emitter).redirects.length ≤ 1 := by
    intro calls
    induction calls with
    | nil => exact fun _ h _ ↦ h
    | cons c calls ih =>
      intro emitter hle hsent
      rw [List.foldl_cons]
      cases c with
      | destroy => exact ih _ hle fun h ↦ Bool.noConfusion h
      | send payload =>
        rw [call]
        split_ifs with h
        · exact ih _ hle hsent
        · have hnone := hsent (Bool.eq_false_iff.mpr h)
          split
          · refine ih _ ?_ fun h ↦ Bool.noConfusion h
            rw [List.length_cons, hnone]
            exact le_rfl
          · exact ih _ hle hsent
  exact hkeeps calls emitter (by rw [hnew]; exact Nat.zero_le 1) fun _ ↦ hnew

end QueryConnectionEmitter

/-! ### Trust on first use -/

/-- The delivery is of an event from the origin, if that is one; a sender without an origin of its
own cannot be told from any other. -/
def Delivery.CheckedBy (delivery : Delivery) (origin : String) : Prop :=
  ∃ sender, delivery.sender = some sender ∧
    (origin ≠ ANY_ORIGIN → sender = origin ∨ sender = "" ∨ sender = "null")

/-- Where a manager stands: it has not delivered the message of its URL, or it has, once, and what
came later has been checked against the target that the message has set. -/
inductive Trusts (page : Page) (start manager : ConnectionManager) : Prop
  | unread (channel : manager.channel = start.channel)
    (target : manager.targetUrl = start.targetUrl)
    (location : manager.location = start.location)
    (checked : ∀ d ∈ manager.delivered, d.CheckedBy (start.targetOrigin page))
  | read (channel : manager.channel = start.channel) (timer : manager.processTimeout = false)
    (first : Delivery) (after before : List Delivery)
    (delivered : manager.delivered = after ++ first :: before)
    (fromUrl : first.sender = none)
    (message : ConnectionManager.createMessage page start.location = some first.message)
    (target : manager.targetUrl = if start.isInitialized then start.targetUrl
      else ConnectionManager.targetOf first.message)
    (location : start.isInitialized = false → manager.location = start.location)
    (later : ∀ d ∈ after, d.CheckedBy (manager.targetOrigin page))
    (earlier : ∀ d ∈ before, d.CheckedBy (start.targetOrigin page))

section Trust

open ConnectionManager

variable {page : Page} {start manager : ConnectionManager}

theorem checkedBy_of_onMessage {event : MessageEvent page.toBrowser}
    {options : ConnectionOptions} {emitted : Option JsValue × ConnectionMessage}
    (h : onMessage options event = some emitted) :
    Delivery.CheckedBy ⟨emitted.1, emitted.2, some event.origin⟩
      (options.targetOrigin page.toBrowser) := by
  obtain ⟨created, hcreate, hprocess⟩ := onMessage_eq_some.mp h
  obtain ⟨sourceUrl, payload, channel, -, rfl⟩ := createMessage_eq_ok.mp hcreate
  obtain ⟨horigin, -, -⟩ := processMessage_eq_ok.mp hprocess
  refine ⟨event.origin, rfl, fun hconcrete ↦ ?_⟩
  have hmessage : (ConnectionMessage.create payload channel
      (some (event.sourceUrl sourceUrl))).sourceUrl = some (event.sourceUrl sourceUrl) := rfl
  rcases origin_eq event sourceUrl hmessage with ⟨hempty | ⟨hnull, -⟩, -⟩ | ⟨-, hne, hsame⟩
  · exact Or.inr (Or.inl hempty)
  · exact Or.inr (Or.inr hnull)
  · rw [hsame] at horigin
    rcases horigin with h | h | h
    · exact Or.inl h
    · exact absurd h hne
    · exact absurd h hconcrete

/-- Two managers with one target check origins alike. -/
theorem targetOrigin_congr (htarget : manager.targetUrl = start.targetUrl) :
    manager.targetOrigin page = start.targetOrigin page := by
  rw [ConnectionManager.targetOrigin, ConnectionOptions.targetOrigin, options, htarget]
  rfl

/-- The manager after the message of the URL. -/
theorem onOptionsMessage_fields (manager : ConnectionManager) (message : ConnectionMessage) :
    (manager.onOptionsMessage message).channel = manager.channel ∧
      (manager.onOptionsMessage message).processTimeout = manager.processTimeout ∧
      (manager.onOptionsMessage message).delivered = manager.delivered ∧
      (manager.onOptionsMessage message).targetUrl =
        (if manager.isInitialized then manager.targetUrl else targetOf message) ∧
      (manager.isInitialized = false →
        (manager.onOptionsMessage message).location = manager.location) := by
  unfold onOptionsMessage
  cases h : manager.isInitialized with
  | true =>
    unfold clearSource
    cases removeDataFromUrl manager.location with
    | none => exact ⟨rfl, rfl, rfl, rfl, fun h ↦ Bool.noConfusion h⟩
    | some cleared => exact ⟨rfl, rfl, rfl, rfl, fun h ↦ Bool.noConfusion h⟩
  | false => exact ⟨rfl, rfl, rfl, rfl, fun _ ↦ rfl⟩

/-- A delivery of an event keeps what is known of a manager. -/
theorem Trusts.deliver {emitted : Option JsValue × ConnectionMessage} {sender : String}
    (hchecked : Delivery.CheckedBy ⟨emitted.1, emitted.2, some sender⟩
      (manager.targetOrigin page)) (h : Trusts page start manager) :
    Trusts page start (manager.deliver emitted (some sender)) := by
  cases h with
  | unread channel target location checked =>
    refine .unread channel target location fun d hd ↦ ?_
    rcases List.mem_cons.mp hd with rfl | hd
    · rwa [targetOrigin_congr target] at hchecked
    · exact checked d hd
  | read channel timer first after before delivered fromUrl message target location later
      earlier =>
    refine .read channel timer first (⟨emitted.1, emitted.2, some sender⟩ :: after) before ?_
      fromUrl message target location (fun d hd ↦ ?_) earlier
    · change _ :: manager.delivered = _
      rw [delivered]
      rfl
    · rcases List.mem_cons.mp hd with rfl | hd
      · exact hchecked
      · exact later d hd

/-- Only the flags of the two listeners change. -/
theorem Trusts.of_flags (h : Trusts page start manager) {manager' : ConnectionManager}
    (hchannel : manager'.channel = manager.channel)
    (htarget : manager'.targetUrl = manager.targetUrl)
    (hlocation : manager'.location = manager.location)
    (hdelivered : manager'.delivered = manager.delivered)
    (htimer : manager'.processTimeout = false) : Trusts page start manager' := by
  cases h with
  | unread channel target location checked =>
    refine .unread (hchannel.trans channel) (htarget.trans target) (hlocation.trans location) ?_
    rwa [hdelivered]
  | read channel timer first after before delivered fromUrl message target location later
      earlier =>
    refine .read (hchannel.trans channel) htimer first after before (hdelivered.trans delivered)
      fromUrl message (htarget.trans target) (fun hinit ↦ hlocation.trans (location hinit)) ?_
      earlier
    rwa [targetOrigin_congr htarget]

/-- The message of the URL is delivered and concerns the options, or nothing happens. -/
theorem onProcess_cases (page : Page) (manager : ConnectionManager) :
    manager.onProcess page = manager ∨ ∃ message,
      ConnectionManager.createMessage page manager.location = some message ∧
      processMessage page.toBrowser manager.options message = .ok (message.payload, message) ∧
      manager.onProcess page =
        (manager.deliver (message.payload, message) none).onOptionsMessage message := by
  unfold ConnectionManager.onProcess
  cases ConnectionManager.createMessage page manager.location with
  | none => exact Or.inl rfl
  | some message =>
    cases hprocess : processMessage page.toBrowser manager.options message with
    | error _ =>
      refine Or.inl ?_
      simp only [hprocess]
    | ok emitted =>
      obtain ⟨-, -, rfl⟩ := processMessage_eq_ok.mp hprocess
      refine Or.inr ⟨message, rfl, hprocess, ?_⟩
      simp only [hprocess]

/-- The timer fires once: a manager that has read its URL has none. -/
theorem Trusts.onProcess (htimer : manager.processTimeout = true)
    (h : Trusts page start manager) :
    Trusts page start ({ manager with processTimeout := false }.onProcess page) := by
  rcases onProcess_cases page { manager with processTimeout := false } with
    heq | ⟨message, hmessage, -, heq⟩
  · rw [heq]
    exact h.of_flags rfl rfl rfl rfl rfl
  · rw [heq]
    cases h with
    | read channel timer =>
      rw [htimer] at timer
      cases timer
    | unread channel target location checked =>
      obtain ⟨hchannel, htimer', hdelivered, htarget, hlocation⟩ := onOptionsMessage_fields
        (({ manager with processTimeout := false } : ConnectionManager).deliver
          (message.payload, message) none) message
      have hsame : (({ manager with processTimeout := false } : ConnectionManager).deliver
          (message.payload, message) none).isInitialized = start.isInitialized := by
        change (!manager.targetUrl.isText DEFAULT_URL) = _
        rw [target]
        rfl
      refine .read (hchannel.trans channel) htimer' ⟨message.payload, message, none⟩ []
        manager.delivered hdelivered rfl (location ▸ hmessage) ?_ (fun hinit ↦ ?_)
        (fun d hd ↦ absurd hd List.not_mem_nil) checked
      · rw [htarget, hsame]
        change (if start.isInitialized then manager.targetUrl else targetOf message) = _
        rw [target]
      · exact (hlocation (hsame.trans hinit)).trans location

theorem Trusts.step {event : Event page} {manager' : ConnectionManager}
    (hstep : ConnectionManager.step page manager event = some manager')
    (h : Trusts page start manager) : Trusts page start manager' := by
  cases event with
  | timer =>
    change (if manager.processTimeout then
      some ({ manager with processTimeout := false }.onProcess page) else none) = _ at hstep
    split_ifs at hstep with htimer
    obtain rfl := Option.some.inj hstep
    exact h.onProcess htimer
  | message event =>
    change (if manager.listening then some (manager.onEvent page event) else some manager) = _
      at hstep
    split_ifs at hstep
    · obtain rfl := Option.some.inj hstep
      unfold onEvent
      cases hemitted : onMessage manager.options event with
      | none => exact h
      | some emitted => exact h.deliver (checkedBy_of_onMessage hemitted)
    · obtain rfl := Option.some.inj hstep
      exact h
  | destroy =>
    obtain rfl := Option.some.inj hstep
    exact h.of_flags rfl rfl rfl rfl rfl

/-- In every run of a manager the target is set at most once, by the message of the page's URL and
only when none was given; this message is delivered at most once, and everything that is delivered
after it has been checked against the target that is set. -/
theorem trust_on_first_use (page : Page) (start manager : ConnectionManager)
    (hstart : (managers page).start start)
    (hrun : (managers page).Leads (fun _ _ ↦ True) start manager) :
    Trusts page start manager := by
  refine hrun.preserves (I := Trusts page start) (fun _ _ _ h _ hstep ↦ h.step hstep) ?_
  obtain ⟨-, -, hnone⟩ := hstart
  refine .unread rfl rfl rfl fun d hd ↦ ?_
  rw [hnone] at hd
  exact absurd hd List.not_mem_nil

end Trust

/-! ### The handshake -/

section Handshake

open ConnectionManager

variable {page : Page}

/-- `JSON.parse` reads what `JSON.stringify` has written. -/
def Faithful (page : Page) (message : ConnectionMessage) : Prop :=
  page.jsonParse (page.jsonStringify message.toJSON) = some message.toJSON

theorem filter_truthy {url : String} (h : url ≠ "") :
    (some (JsValue.string url)).filter JsValue.truthy = some (.string url) :=
  Option.filter_some_pos (decide_eq_true h)

/-- The fields of a message survive its way through an object. -/
theorem get?_toJSON (payload : Option JsValue) (channel sourceUrl : String)
    (hsource : sourceUrl ≠ "") :
    let message := ConnectionMessage.create payload (some (.string channel))
      (some (.string sourceUrl))
    message.toJSON.get? "payload" = some payload ∧
      message.toJSON.get? "channel" = some (some (.string channel)) ∧
      message.toJSON.get? "sourceUrl" = some (some (.string sourceUrl)) := by
  cases payload <;>
    simp [ConnectionMessage.create, ConnectionMessage.toJSON, JsValue.get?, filter_truthy hsource]

/-- The message in a URL is the one that was written there. -/
theorem createMessage_of_data {location : Text} {payload : Option JsValue}
    {channel sourceUrl : String} (hsource : sourceUrl ≠ "")
    (hfaithful : Faithful page
      (.create payload (some (.string channel)) (some (.string sourceUrl))))
    (hdata : getDataFromUrl location = some (page.jsonStringify
      (ConnectionMessage.create payload (some (.string channel))
        (some (.string sourceUrl))).toJSON)) :
    ConnectionManager.createMessage page location =
      some (.create payload (some (.string channel)) (some (.string sourceUrl))) := by
  obtain ⟨hpayload, hchannel, hurl⟩ := get?_toJSON payload channel sourceUrl hsource
  unfold ConnectionManager.createMessage
  simp only [hdata, Option.bind_eq_bind, Option.bind_some]
  rw [hfaithful, Option.bind_some, hpayload, Option.bind_some, hchannel, Option.bind_some, hurl,
    Option.bind_some]
  rfl

/-- A page without data in its URL delivers nothing. -/
theorem onProcess_of_empty {manager : ConnectionManager}
    (hdata : getDataFromUrl manager.location = some []) : manager.onProcess page = manager := by
  rcases onProcess_cases page manager with heq | ⟨message, hmessage, -⟩
  · exact heq
  · unfold ConnectionManager.createMessage at hmessage
    simp only [hdata, Option.bind_eq_bind, Option.bind_some, page.jsonParse_empty,
      Option.bind_none] at hmessage
    cases hmessage

/-- A message that passes the check is delivered from the URL. -/
theorem onProcess_of_message {manager : ConnectionManager} {message : ConnectionMessage}
    (hmessage : ConnectionManager.createMessage page manager.location = some message)
    (horigin : message.origin page.toBrowser = manager.targetOrigin page ∨
      message.origin page.toBrowser = ANY_ORIGIN ∨ manager.targetOrigin page = ANY_ORIGIN)
    (hchannel : manager.options.acceptsChannel message.channel = true) :
    manager.onProcess page =
      (manager.deliver (message.payload, message) none).onOptionsMessage message := by
  have hprocess := processMessage_eq_ok.mpr ⟨horigin, hchannel, rfl⟩
  unfold ConnectionManager.onProcess
  simp only [hmessage, hprocess]

/-- The origin of a message with a source URL that has one. -/
theorem origin_create {payload channel : Option JsValue} {sourceUrl origin : String}
    (h : page.urlOrigin sourceUrl = some origin) :
    (ConnectionMessage.create payload channel (some (.string sourceUrl))).origin page.toBrowser =
      origin := by
  have hne : sourceUrl ≠ "" := by
    rintro rfl
    rw [page.urlOrigin_empty] at h
    cases h
  have htruthy : (JsValue.string sourceUrl).truthy = true := decide_eq_true hne
  change (if (JsValue.string sourceUrl).truthy then _ else _) = _
  rw [if_pos htruthy]
  change orElseText ((page.urlOrigin sourceUrl).getD "") ANY_ORIGIN = origin
  rw [h, Option.getD_some]
  exact orElseText_of_ne (page.origin_ne_empty _ _ h)

/-- The origin of a target that has one. -/
theorem targetOrigin_of_url {manager : ConnectionManager} {url origin : String}
    (htarget : manager.targetUrl = .string url) (h : page.urlOrigin url = some origin) :
    manager.targetOrigin page = origin := by
  rw [ConnectionManager.targetOrigin, ConnectionOptions.targetOrigin, options, htarget,
    JsValue.toText, Option.getD_some, getOrigin, h, Option.getD_some]
  exact orElseText_of_ne (page.origin_ne_empty _ _ h)

theorem acceptsChannel_any (options : ConnectionOptions) :
    options.acceptsChannel (.string ANY_CHANNEL) = true := by
  simp [ConnectionOptions.acceptsChannel, JsValue.isText]

/-- The opening side: its page, the URL that it opens and its channel. -/
def opener (location target : Text) (channel : String) : ConnectionManager where
  targetUrl := .string (getSource target)
  channel
  location

/-- A new manager on the page of a URL, after its timer. -/
def ConnectionManager.loaded (manager : ConnectionManager) (page : Page) (location : Text) :
    ConnectionManager :=
  { manager with location, processTimeout := false, delivered := [] }.onProcess page

/-- The page that was opened, whose manager knows no target. -/
def form (page : Page) (location : Text) : ConnectionManager :=
  ({ location } : ConnectionManager).loaded page location

/-- The URL with a message, as the emitter writes it: its data are the message. -/
theorem exists_constructUrl (page : Page) {manager : ConnectionManager} {url : Text}
    (htarget : manager.targetUrl = .string (getSource url)) (hurl : IsUrl url)
    (payload : Option JsValue) :
    ∃ result, manager.constructUrl page false payload = some result ∧
      Url.hash result = Url.hash url ∧
      getDataFromUrl result = some (page.jsonStringify (manager.createPost payload).toJSON) ∧
      ∃ cleared, removeDataFromUrl result = some cleared ∧ Url.hash cleared = Url.hash url ∧
        getDataFromUrl cleared = some [] := by
  have hwell : ∀ value, some (page.jsonStringify (manager.createPost payload).toJSON) =
      some value → IsWellFormed value :=
    fun value h ↦ Option.some.inj h ▸ page.stringify_wellFormed _
  have hnone : ∀ value, (none : Option Text) = some value → IsWellFormed value := by
    intro value h
    cases h
  obtain ⟨result, hset, hreadable, hhash, hget⟩ :=
    setSearchParams_dataParams hurl.readable hwell
  obtain ⟨cleared, hclear, -, hhash', hget'⟩ := setSearchParams_dataParams hreadable hnone
  refine ⟨result, ?_, hhash, hget, cleared, hclear,
    hhash'.trans hhash, hget'⟩
  rw [constructUrl, htarget]
  change setDataToUrl (text (getSource url)) _ = _
  rw [text_getSource hurl.wellFormed]
  exact hset

theorem ne_of_urlOrigin {url origin : String} (h : page.urlOrigin url = some origin) :
    url ≠ "" ∧ url ≠ DEFAULT_URL := by
  constructor
  · rintro rfl
    rw [page.urlOrigin_empty] at h
    cases h
  · rintro rfl
    rw [page.urlOrigin_default] at h
    cases h

/-- The page that was opened gets the payload and takes its opener as the target. -/
theorem form_of_message {url : Text} {payload : Option JsValue} {channel sourceUrl : String}
    (hsource : sourceUrl ≠ "")
    (hmessage : ConnectionManager.createMessage page url =
      some (.create payload (some (.string channel)) (some (.string sourceUrl)))) :
    form page url =
      { targetUrl := .string sourceUrl
        location := url
        processTimeout := false
        delivered := [⟨payload,
          .create payload (some (.string channel)) (some (.string sourceUrl)), none⟩] } := by
  have hany : ({ location := url, processTimeout := false } : ConnectionManager).targetOrigin
      page = ANY_ORIGIN := by
    change orElseText ((page.urlOrigin DEFAULT_URL).getD "") ANY_ORIGIN = _
    rw [page.urlOrigin_default]
    rfl
  have hprocess : form page url = (ConnectionManager.deliver
      { location := url, processTimeout := false } (payload,
        .create payload (some (.string channel)) (some (.string sourceUrl))) none).onOptionsMessage
      (.create payload (some (.string channel)) (some (.string sourceUrl))) := by
    refine onProcess_of_message hmessage (Or.inr (Or.inr hany)) ?_
    simp [ConnectionOptions.acceptsChannel, options]
  have htarget : targetOf (.create payload (some (.string channel)) (some (.string sourceUrl))) =
      .string sourceUrl := by
    rw [targetOf, ConnectionMessage.create, filter_truthy hsource, Option.getD_some]
  rw [hprocess]
  change ConnectionManager.mk (targetOf _) _ _ _ _ _ = _
  rw [htarget]
  rfl

/-- An opener that finds the answer in its URL delivers it and removes it from there. -/
theorem loaded_opener (location : Text) {target back : Text} (channel : String)
    {origin sourceUrl : String} {payload : Option JsValue}
    (htarget : page.urlOrigin (getSource target) = some origin)
    (hsource : page.urlOrigin sourceUrl = some origin)
    (hmessage : ConnectionManager.createMessage page back =
      some (.create payload (some (.string ANY_CHANNEL)) (some (.string sourceUrl))))
    {cleared : Text} (hclear : removeDataFromUrl back = some cleared) :
    (opener location target channel).loaded page back =
      { opener location target channel with
        location := cleared
        processTimeout := false
        delivered := [⟨payload,
          .create payload (some (.string ANY_CHANNEL)) (some (.string sourceUrl)), none⟩] } := by
  have hprocess : (opener location target channel).loaded page back = (ConnectionManager.deliver
      { opener location target channel with
        location := back, processTimeout := false, delivered := [] } (payload,
          .create payload (some (.string ANY_CHANNEL))
            (some (.string sourceUrl))) none).onOptionsMessage
      (.create payload (some (.string ANY_CHANNEL)) (some (.string sourceUrl))) := by
    refine onProcess_of_message hmessage (Or.inl ?_) (acceptsChannel_any _)
    rw [origin_create hsource]
    exact (targetOrigin_of_url rfl htarget).symm
  have hinitialized : (JsValue.string (getSource target)).isText DEFAULT_URL = false :=
    decide_eq_false (ne_of_urlOrigin htarget).2
  rw [hprocess, onOptionsMessage]
  change (if (!(JsValue.string (getSource target)).isText DEFAULT_URL) = true then _ else _) = _
  rw [hinitialized, Bool.not_false, if_pos rfl, clearSource]
  change (match removeDataFromUrl back with | some clearedUrl => _ | none => _) = _
  rw [hclear]
  rfl

/-- A message that the opened page posts is delivered by its opener. -/
theorem onEvent_opener {location target : Text} {channel origin sourceUrl : String}
    {payload : Option JsValue} (htarget : page.urlOrigin (getSource target) = some origin)
    (hsource : page.urlOrigin sourceUrl = some origin)
    (hfaithful : Faithful page
      (.create payload (some (.string ANY_CHANNEL)) (some (.string sourceUrl))))
    {event : MessageEvent page.toBrowser} (horigin : event.origin = origin)
    (hdata : event.data = page.jsonStringify (ConnectionMessage.create payload
      (some (.string ANY_CHANNEL)) (some (.string sourceUrl))).toJSON) :
    (opener location target channel).onEvent page event =
      (opener location target channel).deliver (payload,
        .create payload (some (.string ANY_CHANNEL)) (some (.string sourceUrl)))
        (some origin) := by
  obtain ⟨hne, -⟩ := ne_of_urlOrigin hsource
  obtain ⟨hpayload, hchannel, hurl⟩ := get?_toJSON payload ANY_CHANNEL sourceUrl hne
  have hconfirms : event.confirms (some (.string sourceUrl)) = true := by
    refine Bool.and_eq_true_iff.mpr ⟨decide_eq_true hne, decide_eq_true ?_⟩
    change (page.urlOrigin sourceUrl).getD "" = _
    rw [hsource, horigin, Option.getD_some]
  have hparse : page.jsonParse event.data = some (ConnectionMessage.create payload
      (some (.string ANY_CHANNEL)) (some (.string sourceUrl))).toJSON := by
    rw [hdata]
    exact hfaithful
  have hcreate := createMessage_eq_ok.mpr
    ⟨_, _, _, ⟨_, hparse, hurl, hpayload, hchannel⟩, rfl⟩
  rw [MessageEvent.sourceUrl, if_pos hconfirms, Option.getD_some] at hcreate
  have htargetOrigin : (opener location target channel).targetOrigin page = origin :=
    targetOrigin_of_url rfl htarget
  have hemitted := onMessage_eq_some.mpr ⟨_, hcreate, processMessage_eq_ok.mpr
    ⟨Or.inl ((origin_create hsource).trans htargetOrigin.symm), acceptsChannel_any _, rfl⟩⟩
  rw [onEvent, hemitted, horigin]
  rfl

/-- Assumes: both pages have an origin, the opened page keeps it with data in its URL, and JSON
reads back the two messages. The opened page gets the payload and the URL of its opener. Its answer
reaches the opener by a redirect, once, since the opener removes it from its URL, and by a posted
message. -/
theorem handshake (page : Page) (location target : Text) (channel originA originB : String)
    (payload answer : Option JsValue) (hlocation : IsUrl location) (htarget : IsUrl target)
    (hA : page.urlOrigin (getSource location) = some originA)
    (hB : page.urlOrigin (getSource target) = some originB)
    (hkept : ∀ url, (opener location target channel).constructUrl page false payload =
      some url → page.urlOrigin (getSource url) = some originB)
    (hpayload : Faithful page ((opener location target channel).createPost payload))
    (hanswer : ∀ url, (opener location target channel).constructUrl page false payload =
      some url → Faithful page ((form page url).createPost answer)) :
    ∃ url, (opener location target channel).constructUrl page false payload = some url ∧
      Url.hash url = Url.hash target ∧
      (form page url).delivered =
        [⟨payload, (opener location target channel).createPost payload, none⟩] ∧
      (form page url).targetUrl = .string (getSource location) ∧
      (∃ back, (form page url).constructUrl page false answer = some back ∧
        ((opener location target channel).loaded page back).delivered =
          [⟨answer, (form page url).createPost answer, none⟩] ∧
        ((opener location target channel).loaded page back).targetUrl =
          (opener location target channel).targetUrl ∧
        Url.hash ((opener location target channel).loaded page back).location =
          Url.hash location ∧
        ((opener location target channel).loaded page
          ((opener location target channel).loaded page back).location).delivered = []) ∧
      ∀ event : MessageEvent page.toBrowser, event.origin = originB →
        event.data = page.jsonStringify ((form page url).createPost answer).toJSON →
          ((opener location target channel).onEvent page event).delivered =
            [⟨answer, (form page url).createPost answer, some originB⟩] := by
  obtain ⟨hne, -⟩ := ne_of_urlOrigin hA
  have htargetUrl : (opener location target channel).targetUrl = .string (getSource target) := rfl
  obtain ⟨url, hurl, hhash, hdata, -⟩ :=
    exists_constructUrl page htargetUrl htarget payload
  have hform := form_of_message hne (createMessage_of_data hne hpayload hdata)
  have hsource : page.urlOrigin (getSource url) = some originB := hkept url hurl
  obtain ⟨hsourceNe, -⟩ := ne_of_urlOrigin hsource
  have hpost : (form page url).createPost answer =
      .create answer (some (.string ANY_CHANNEL)) (some (.string (getSource url))) := by
    rw [hform]
    rfl
  have hfaithful := hanswer url hurl
  rw [hpost] at hfaithful
  have hformTarget : (form page url).targetUrl = .string (getSource location) := by rw [hform]
  obtain ⟨back, hback, -, hdata', cleared, hcleared, hhash', hempty⟩ :=
    exists_constructUrl page hformTarget hlocation answer
  rw [hpost] at hdata'
  have hloaded := loaded_opener location channel hB hsource
    (createMessage_of_data hsourceNe hfaithful hdata') hcleared
  refine ⟨url, hurl, hhash, by rw [hform]; rfl, hformTarget, ⟨back, hback, ?_, ?_, ?_, ?_⟩, ?_⟩
  · rw [hloaded, hpost]
  · rw [hloaded]
  · rw [hloaded]
    exact hhash'
  · rw [hloaded, ConnectionManager.loaded, onProcess_of_empty hempty]
  · intro event horigin hevent
    rw [hpost] at hevent
    rw [onEvent_opener hB hsource hfaithful horigin hevent, hpost]
    rfl

end Handshake

/-! ### A shop and its pay form -/

def shopUrl : Text := text "https://a.test/#t"

def formUrl : Text := text "https://b.test/?l=r"

def shop : ConnectionManager := opener shopUrl formUrl "c"

/-- `JSON.stringify` of a message with a number, when no text needs an escape. -/
def writeMessage : JsValue → Text
  | .object [("payload", .number payload), ("channel", .string channel),
      ("sourceUrl", .string sourceUrl)] =>
    text ("\x7b\"payload\":" ++ payload ++ ",\"channel\":\"" ++ channel ++ "\",\"sourceUrl\":\"" ++
      sourceUrl ++ "\"\x7d")
  | _ => text "null"

/-- The URL that the shop opens. -/
def openedUrl : Text :=
  (setDataToUrl formUrl (writeMessage (shop.createPost (some (.number "1"))).toJSON)).getD []

/-- The answer of the form. -/
def formAnswer : ConnectionMessage :=
  ({ location := openedUrl } : ConnectionManager).createPost (some (.number "2"))

/-- `JSON.parse` of the two messages. -/
def readMessage (data : Text) : Option JsValue :=
  if data = writeMessage (shop.createPost (some (.number "1"))).toJSON then
    some (shop.createPost (some (.number "1"))).toJSON
  else if data = writeMessage formAnswer.toJSON then some formAnswer.toJSON
  else none

theorem readMessage_empty : readMessage [] = none := by
  rw [readMessage, if_neg (by decide +kernel), if_neg (by decide +kernel)]

theorem httpsOrigin_default : httpsOrigin DEFAULT_URL = none := by decide

theorem writeMessage_wellFormed (value : JsValue) : IsWellFormed (writeMessage value) := by
  unfold writeMessage
  split <;> exact ⟨_, rfl⟩

def concretePage : Page where
  urlOrigin := httpsOrigin
  jsonParse := readMessage
  jsonStringify := writeMessage
  origin_ne_empty := concreteBrowser.origin_ne_empty
  origin_ne_any := concreteBrowser.origin_ne_any
  urlOrigin_empty := concreteBrowser.urlOrigin_empty
  urlOrigin_null := concreteBrowser.urlOrigin_null
  urlOrigin_default := httpsOrigin_default
  jsonParse_empty := readMessage_empty
  stringify_wellFormed := writeMessage_wellFormed

/-- The message of the shop, posted from some origin. -/
def postedFrom (origin : String) (valid : origin = "" ∨ origin = "null" ∨
    httpsOrigin origin = some origin) : MessageEvent concretePage.toBrowser where
  data := writeMessage (shop.createPost (some (.number "1"))).toJSON
  origin
  valid

/-- The form gets a message from another site before it has read its URL, and one afterwards. -/
def formEvents : List (ConnectionManager.Event concretePage) :=
  [.message (postedFrom "https://c.test" (Or.inr (Or.inr (by decide)))), .timer,
    .message (postedFrom "https://c.test" (Or.inr (Or.inr (by decide)))),
    .message (postedFrom "https://a.test" (Or.inr (Or.inr (by decide))))]

def formStart : ConnectionManager := { location := openedUrl }

def formEnd : ConnectionManager :=
  ((ConnectionManager.managers concretePage).run (fun _ _ ↦ True) formStart formEvents).get
    (by decide +kernel)

/-- After the message of the URL only the shop is heard. -/
theorem trust_on_first_use_witness :
    formEnd.delivered.map Delivery.sender =
        [some "https://a.test", none, some "https://c.test"] ∧
      Trusts concretePage formStart formEnd :=
  ⟨by decide +kernel,
    trust_on_first_use concretePage formStart formEnd ⟨rfl, rfl, rfl⟩ (System.leads_get _)⟩

theorem isUrl_of_decide {url : Text} (hwell : IsWellFormed url)
    (hline : url.any Url.isLineTerminator = false)
    (hescapes : ∀ piece ∈ Url.pieces url, ∀ part ∈ piece.splitOn 61,
      (JsUri.decodeURIComponent part).isSome = true) : IsUrl url :=
  ⟨hwell, fun u hu ↦ Bool.eq_false_iff.mpr (List.any_eq_false.mp hline u hu), hescapes⟩

theorem faithful_concrete {message : ConnectionMessage}
    (h : readMessage (writeMessage message.toJSON) = some message.toJSON) :
    Faithful concretePage message := h

theorem readMessage_of_shop {data : Text}
    (h : data = writeMessage (shop.createPost (some (.number "1"))).toJSON) :
    readMessage data = some (shop.createPost (some (.number "1"))).toJSON := by
  rw [readMessage, if_pos h]

theorem readMessage_of_form {data : Text}
    (hne : data ≠ writeMessage (shop.createPost (some (.number "1"))).toJSON)
    (h : data = writeMessage formAnswer.toJSON) : readMessage data = some formAnswer.toJSON := by
  rw [readMessage, if_neg hne, if_pos h]

/-- The form answers on any channel. -/
theorem createPost_form :
    (form concretePage openedUrl).createPost (some (.number "2")) = formAnswer := by
  have hchannel : (form concretePage openedUrl).channel = ANY_CHANNEL := by decide +kernel
  have hlocation : (form concretePage openedUrl).location = openedUrl := by decide +kernel
  rw [ConnectionManager.createPost, hchannel, hlocation, formAnswer, ConnectionManager.createPost]

theorem handshake_witness :
    ∃ back, (form concretePage openedUrl).constructUrl concretePage false
        (some (.number "2")) = some back ∧
      (shop.loaded concretePage back).delivered = [⟨some (.number "2"), formAnswer, none⟩] := by
  have hopened : shop.constructUrl concretePage false (some (.number "1")) = some openedUrl := by
    decide +kernel
  have hpayload : Faithful concretePage (shop.createPost (some (.number "1"))) := by
    apply faithful_concrete
    apply readMessage_of_shop
    rfl
  have hanswer : Faithful concretePage formAnswer := by
    apply faithful_concrete
    apply readMessage_of_form (by decide +kernel)
    rfl
  have hkept : concretePage.urlOrigin (getSource openedUrl) = some "https://b.test" := by
    decide +kernel
  obtain ⟨url, hurl, -, -, -, ⟨back, hback, hdelivered, -⟩, -⟩ :=
    handshake concretePage shopUrl formUrl "c" "https://a.test" "https://b.test"
      (some (.number "1")) (some (.number "2"))
      (isUrl_of_decide ⟨_, rfl⟩ (by decide +kernel) (by decide +kernel))
      (isUrl_of_decide ⟨_, rfl⟩ (by decide +kernel) (by decide +kernel))
      (by decide +kernel) (by decide +kernel)
      (fun url h ↦ by
        rw [← Option.some.inj (hopened.symm.trans h)]
        exact hkept)
      hpayload
      (fun url h ↦ by
        rw [← Option.some.inj (hopened.symm.trans h), createPost_form]
        exact hanswer)
  have hsame : url = openedUrl := Option.some.inj (hurl.symm.trans hopened)
  rw [hsame] at hback hdelivered
  rw [createPost_form] at hdelivered
  exact ⟨back, hback, hdelivered⟩

end YandexPay.Connections
