import YandexPay.Library.Saga

/-!
# The sagas of the partner's registration

`store/partner-submit` of the console: the sagas that register a partner, its merchant and its
payment provider, and the reducer that they settle their requests in. The outcome of each call of
the server is given, and so is that of each callback.

`settled_truthfully_iff` says for which outcomes a run settles its request by exactly one action,
and puts the success of a registration only when everything has been registered.
-/

set_option autoImplicit false
set_option relaxedAutoImplicit false

namespace YandexPay.Console

/-! ### Data -/

/-- What is thrown; the message is `undefined` unless it is an error. -/
structure Thrown where
  message : Option String
  deriving DecidableEq

structure Contact where
  email : String
  phone : String
  deriving DecidableEq

structure RegistrationData where
  ogrn : String
  taxRefNumber : String
  kpp : String
  contact : Contact
  ceoName : String
  fullCompanyName : String
  legalAddress : String
  postalAddress : String
  deriving DecidableEq

structure PartnerSubmitRequest where
  name : String
  registrationData : RegistrationData
  deriving DecidableEq

structure PartnerSubmitPatchRequest where
  name : String
  email : Option String
  phone : Option String
  deriving DecidableEq

structure Partner extends PartnerSubmitRequest where
  partnerId : String
  deriving DecidableEq

structure Merchant where
  partnerId : String
  merchantId : String
  name : String
  deriving DecidableEq

inductive ProvidersIDs
  | payture
  | uniteller
  deriving DecidableEq

structure ProviderSubmitRequest where
  pspExternalId : ProvidersIDs
  creds : String
  deriving DecidableEq

structure Provider where
  integrationId : String
  pspExternalId : String
  merchantId : String
  deriving DecidableEq

structure ProviderApplicationRequest where
  name : Option String
  monthlyTurnover : Option String
  averageBill : Option String
  email : Option String
  phone : Option String
  deriving DecidableEq

inductive ProviderApplicationState
  | successed
  | processing
  | canceled
  deriving DecidableEq

/-- The value of `setPartnerDataRequest`. -/
structure PartnerData where
  kpp : String
  inn : String
  ogrn : String
  name : String
  address : String
  fullName : String
  leaderName : String
  site : String
  correspondenceAddress : String
  email : String
  phone : String
  terms : Bool
  deriving DecidableEq

/-! ### Actions and the reducer -/

/-- The actions of the store; a request without the callbacks, which only its saga reads. -/
inductive Action
  | fetchPartnerSubmitRequest (value : PartnerSubmitRequest)
  | fetchPartnerSubmitSuccess (data : Merchant)
  | fetchPartnerSubmitFailure (error : Option String)
  | patchPartnerSubmitRequest (value : PartnerSubmitPatchRequest) (partnerID : String)
  | patchPartnerSubmitSuccess (data : Partner)
  | patchPartnerSubmitFailure (error : Option String)
  | fetchPartnerMerchantsRequest
  | fetchPartnerMerchantsSuccess (payload : Option (Option Merchant))
  | fetchPartnerMerchantsFailure (error : Option String)
  | fetchProviderSubmitRequest (merchantId : String) (value : ProviderSubmitRequest)
  | fetchProviderSubmitSuccess (payload : Option (Option Provider))
  | fetchProviderSubmitFailure (error : Option String)
  | fetchProviderApplicationSubmitRequest (merchantId providerName : String)
    (fields : ProviderApplicationRequest)
  | fetchProviderApplicationSubmitSuccess (providerName : String)
  | fetchProviderApplicationSubmitFailure (providerName : String)
  | setPartnerDataRequest (value : PartnerData)
  deriving DecidableEq

structure ProviderApplication where
  state : ProviderApplicationState
  name : String
  deriving DecidableEq

structure PartnerSubmitState where
  pending : Bool
  partner : Option Merchant
  provider : Option Provider
  providerApplication : Option ProviderApplication
  error : Option String
  partnerBeenChecked : Bool
  deriving DecidableEq

def initialState : PartnerSubmitState := ⟨false, none, none, none, none, false⟩

def partnerSubmitReducer (state : PartnerSubmitState) : Action → PartnerSubmitState
  | .fetchPartnerSubmitRequest _ | .patchPartnerSubmitRequest _ _ | .fetchPartnerMerchantsRequest
  | .fetchProviderSubmitRequest _ _ => { state with pending := true }
  | .fetchPartnerSubmitSuccess data =>
    { state with pending := false, partner := some data, error := none }
  | .fetchPartnerSubmitFailure error =>
    { state with pending := false, partner := none, error := error }
  | .patchPartnerSubmitSuccess _ => { state with pending := false, error := none }
  | .patchPartnerSubmitFailure error => { state with pending := false, error := error }
  | .fetchPartnerMerchantsSuccess payload =>
    { state with
      pending := false
      partner := payload.join
      error := none
      partnerBeenChecked := true }
  | .fetchPartnerMerchantsFailure error =>
    { state with
      pending := false
      partner := none
      error := error
      partnerBeenChecked := true }
  | .fetchProviderSubmitSuccess payload =>
    { state with pending := false, provider := payload.join, error := none }
  | .fetchProviderSubmitFailure error =>
    { state with pending := false, provider := none, error := error }
  | .fetchProviderApplicationSubmitRequest _ providerName _ =>
    { state with providerApplication := some ⟨.processing, providerName⟩, pending := true }
  | .fetchProviderApplicationSubmitSuccess providerName =>
    { state with providerApplication := some ⟨.successed, providerName⟩, pending := false }
  | .fetchProviderApplicationSubmitFailure providerName =>
    { state with providerApplication := some ⟨.canceled, providerName⟩, pending := false }
  | .setPartnerDataRequest _ => state

/-! ### Sagas -/

/-- The outcomes of the calls of the server. -/
structure Api where
  fetchPartnersSubmit : PartnerSubmitRequest → Except Thrown Partner
  patchPartnersSubmit : PartnerSubmitPatchRequest → String → Except Thrown Partner
  createMerchants : String → String → Except Thrown Merchant
  setOrigins : String → String → String → Except Thrown Unit
  getPartners : Except Thrown (List Partner)
  getMerchants : String → Except Thrown (List Merchant)
  getIntegrations : String → Except Thrown (List Provider)
  fetchProviderSubmit : String → ProviderSubmitRequest → Except Thrown Provider
  fetchProviderApplication :
    String → ProviderApplicationRequest → Except Thrown ProviderApplicationState

abbrev PartnerSaga := Saga Thrown Action

open Saga

/-- The outcome of a promise that is not waited for. -/
def notAwaited (_ : Except Thrown Unit) : Except Thrown Unit := .ok ()

def setPartnerSubmitSaga (api : Api) (value : PartnerSubmitRequest)
    (callback : Partner → Except Thrown Unit) : PartnerSaga Unit :=
  Saga.tryCatch (do
    let partner ← call do
      let res ← api.fetchPartnersSubmit value
      callback res
      return res
    let merchant ← call do
      let res ← api.createMerchants partner.partnerId partner.name
      notAwaited (api.setOrigins partner.partnerId res.merchantId res.name)
      return res
    put (.fetchPartnerSubmitSuccess merchant))
    fun e ↦ put (.fetchPartnerSubmitFailure e.message)

def patchPartnerSubmitSaga (api : Api) (value : PartnerSubmitPatchRequest) (partnerID : String)
    (callback : Partner → Except Thrown Unit) : PartnerSaga Unit :=
  Saga.tryCatch (do
    let partner ← call do
      let res ← api.patchPartnersSubmit value partnerID
      callback res
      return res
    put (.patchPartnerSubmitSuccess partner))
    fun e ↦ put (.patchPartnerSubmitFailure e.message)

def Partner.data (partner : Partner) : PartnerData where
  kpp := partner.registrationData.kpp
  inn := partner.registrationData.taxRefNumber
  ogrn := partner.registrationData.ogrn
  name := partner.name
  address := partner.registrationData.legalAddress
  fullName := partner.registrationData.fullCompanyName
  leaderName := partner.registrationData.ceoName
  site := ""
  correspondenceAddress := partner.registrationData.postalAddress
  email := partner.registrationData.contact.email
  phone := partner.registrationData.contact.phone
  terms := true

/-- `partnerData` is what the store selects; without it the success of the provider is made and not
put. -/
def getIntegrationsOf (api : Api) (partnerData : Option PartnerData) (merchantId : String) :
    PartnerSaga Unit := do
  let integrations ← call (api.getIntegrations merchantId)
  if partnerData.isSome then
    put (.fetchProviderSubmitSuccess (some integrations.head?))

/-- The first partner, if it has an id. -/
def firstPartner (partners : List Partner) : Option Partner :=
  partners.head?.filter fun partner ↦ partner.partnerId ≠ ""

/-- The first merchant, if it has an id. -/
def firstMerchant (merchants : List Merchant) : Option Merchant :=
  merchants.head?.filter fun merchant ↦ merchant.merchantId ≠ ""

def getMerchantsOf (api : Api) (partnerData : Option PartnerData) (partner : Partner) :
    PartnerSaga Unit := do
  put (.setPartnerDataRequest partner.data)
  let merchants ← call (api.getMerchants partner.partnerId)
  put (.fetchPartnerMerchantsSuccess (some merchants.head?))
  match firstMerchant merchants with
  | none => pure ()
  | some merchant => getIntegrationsOf api partnerData merchant.merchantId

def getPartnerMerchantsSaga (api : Api) (partnerData : Option PartnerData) : PartnerSaga Unit :=
  Saga.tryCatch (do
    let partners ← call api.getPartners
    match firstPartner partners with
    | none => put (.fetchPartnerMerchantsSuccess none)
    | some partner => getMerchantsOf api partnerData partner)
    fun e ↦ put (.fetchPartnerMerchantsFailure e.message)

/-- The `catch` of `setProviderSubmitSaga`. -/
def catchProviderSubmit (onCatch : Option (Except Thrown Unit)) (e : Thrown) :
    PartnerSaga Unit := do
  call (onCatch.getD (.ok ()))
  put (.fetchProviderSubmitFailure e.message)

def setProviderSubmitSaga (api : Api) (merchantId : String) (value : ProviderSubmitRequest)
    (callback : Except Thrown Unit) (onCatch : Option (Except Thrown Unit)) : PartnerSaga Unit :=
  Saga.tryCatch (do
    let response ← call (api.fetchProviderSubmit merchantId value)
    call callback
    put (.fetchProviderSubmitSuccess (some (some response))))
    fun e ↦ catchProviderSubmit onCatch e

def setFutureProviderSubmitSaga (api : Api) (merchantId providerName : String)
    (fields : ProviderApplicationRequest) : PartnerSaga Unit :=
  Saga.tryCatch (do
    let state ← call (api.fetchProviderApplication merchantId fields)
    if state = .successed then
      put (.fetchProviderApplicationSubmitSuccess providerName))
    fun _ ↦ put (.fetchProviderApplicationSubmitFailure providerName)

/-! ### Runs -/

/-- A saga with the arguments of its run. -/
inductive Run
  | setPartnerSubmit (value : PartnerSubmitRequest) (callback : Partner → Except Thrown Unit)
  | patchPartnerSubmit (value : PartnerSubmitPatchRequest) (partnerID : String)
    (callback : Partner → Except Thrown Unit)
  | getPartnerMerchants (partnerData : Option PartnerData)
  | setProviderSubmit (merchantId : String) (value : ProviderSubmitRequest)
    (callback : Except Thrown Unit) (onCatch : Option (Except Thrown Unit))
  | setFutureProviderSubmit (merchantId providerName : String)
    (fields : ProviderApplicationRequest)

namespace Run

def saga (api : Api) : Run → PartnerSaga Unit
  | .setPartnerSubmit value callback => setPartnerSubmitSaga api value callback
  | .patchPartnerSubmit value partnerID callback =>
    patchPartnerSubmitSaga api value partnerID callback
  | .getPartnerMerchants partnerData => getPartnerMerchantsSaga api partnerData
  | .setProviderSubmit merchantId value callback onCatch =>
    setProviderSubmitSaga api merchantId value callback onCatch
  | .setFutureProviderSubmit merchantId providerName fields =>
    setFutureProviderSubmitSaga api merchantId providerName fields

/-- The success and the failure of the request of a run. -/
def settles : Run → Action → Bool
  | .setPartnerSubmit _ _, .fetchPartnerSubmitSuccess _
  | .setPartnerSubmit _ _, .fetchPartnerSubmitFailure _
  | .patchPartnerSubmit _ _ _, .patchPartnerSubmitSuccess _
  | .patchPartnerSubmit _ _ _, .patchPartnerSubmitFailure _
  | .getPartnerMerchants _, .fetchPartnerMerchantsSuccess _
  | .getPartnerMerchants _, .fetchPartnerMerchantsFailure _
  | .setProviderSubmit _ _ _ _, .fetchProviderSubmitSuccess _
  | .setProviderSubmit _ _ _ _, .fetchProviderSubmitFailure _
  | .setFutureProviderSubmit _ _ _, .fetchProviderApplicationSubmitSuccess _
  | .setFutureProviderSubmit _ _ _, .fetchProviderApplicationSubmitFailure _ => true
  | _, _ => false

end Run

/-- The partner, its merchant and the origin of the merchant are registered. -/
def Api.Registers (api : Api) (value : PartnerSubmitRequest) (merchant : Merchant) : Prop :=
  ∃ partner, api.fetchPartnersSubmit value = .ok partner ∧
    api.createMerchants partner.partnerId partner.name = .ok merchant ∧
    api.setOrigins partner.partnerId merchant.merchantId merchant.name = .ok ()

/-- The run settles its request once, nothing is pending behind it, and the success of a
registration is true. -/
structure SettledTruthfully (api : Api) (run : Run) : Prop where
  once : (run.saga api).Settles run.settles
  notPending : ∀ state, ((run.saga api).puts.foldl partnerSubmitReducer state).pending = false
  truthful : ∀ merchant, .fetchPartnerSubmitSuccess merchant ∈ (run.saga api).puts →
    ∃ value callback, run = .setPartnerSubmit value callback ∧ api.Registers value merchant

/-- The integrations of the merchant that has been put cannot be loaded. -/
def Api.FailsBehindMerchants (api : Api) : Prop :=
  ∃ partners partner merchants merchant e, api.getPartners = .ok partners ∧
    firstPartner partners = some partner ∧ api.getMerchants partner.partnerId = .ok merchants ∧
    firstMerchant merchants = some merchant ∧ api.getIntegrations merchant.merchantId = .error e

/-- The outcomes with which a run is settled truthfully. -/
def Run.Settling (api : Api) : Run → Prop
  | .setPartnerSubmit value callback => ∀ partner merchant,
    api.fetchPartnersSubmit value = .ok partner → callback partner = .ok () →
      api.createMerchants partner.partnerId partner.name = .ok merchant →
      api.setOrigins partner.partnerId merchant.merchantId merchant.name = .ok ()
  | .patchPartnerSubmit _ _ _ => True
  | .getPartnerMerchants _ => ¬ api.FailsBehindMerchants
  | .setProviderSubmit merchantId value callback onCatch =>
    (∃ response, api.fetchProviderSubmit merchantId value = .ok response ∧ callback = .ok ()) ∨
      onCatch.getD (.ok ()) = .ok ()
  | .setFutureProviderSubmit merchantId _ fields => ∀ state,
    api.fetchProviderApplication merchantId fields = .ok state → state = .successed

/-! ### What the reducer makes of a run -/

def Action.isRequest : Action → Bool
  | .fetchPartnerSubmitRequest _ | .patchPartnerSubmitRequest _ _ | .fetchPartnerMerchantsRequest
  | .fetchProviderSubmitRequest _ _ | .fetchProviderApplicationSubmitRequest _ _ _ => true
  | _ => false

/-- An action that settles a request ends the pending state, and only a request starts it again. -/
theorem pending_reducer (state : PartnerSubmitState) {action : Action}
    (h : action.isRequest = false) :
    (partnerSubmitReducer state action).pending = false ∨
      (partnerSubmitReducer state action).pending = state.pending ∧
        ∀ run : Run, run.settles action = false := by
  cases action with
  | setPartnerDataRequest => exact .inr ⟨rfl, fun run ↦ by cases run <;> rfl⟩
  | fetchPartnerSubmitRequest => cases h
  | patchPartnerSubmitRequest => cases h
  | fetchPartnerMerchantsRequest => cases h
  | fetchProviderSubmitRequest => cases h
  | fetchProviderApplicationSubmitRequest => cases h
  | _ => exact .inl rfl

theorem pending_foldl_of_not {puts : List Action} (hrequests : ∀ action ∈ puts,
    action.isRequest = false) {state : PartnerSubmitState} (hstate : state.pending = false) :
    (puts.foldl partnerSubmitReducer state).pending = false := by
  induction puts generalizing state with
  | nil => exact hstate
  | cons action puts ih =>
    refine ih (fun a ha ↦ hrequests a (List.mem_cons_of_mem _ ha)) ?_
    rcases pending_reducer state (hrequests action List.mem_cons_self) with hend | ⟨hkept, -⟩
    · exact hend
    · exact hkept.trans hstate

/-- Behind an action that settles a request nothing is pending, if no request follows. -/
theorem pending_foldl {puts : List Action} (hrequests : ∀ action ∈ puts,
    action.isRequest = false) {run : Run} {action : Action} (hmem : action ∈ puts)
    (hsettles : run.settles action = true) (state : PartnerSubmitState) :
    (puts.foldl partnerSubmitReducer state).pending = false := by
  obtain ⟨before, after, rfl⟩ := List.append_of_mem hmem
  rw [List.foldl_append, List.foldl_cons]
  refine pending_foldl_of_not (fun a ha ↦ hrequests a ?_) ?_
  · exact List.mem_append_right _ (List.mem_cons_of_mem _ ha)
  · rcases pending_reducer (before.foldl partnerSubmitReducer state) (hrequests action hmem) with
      hend | ⟨-, hnot⟩
    · exact hend
    · exact absurd (hnot run) (by rw [hsettles]; exact Bool.noConfusion)

/-! ### The sagas one by one -/

section Runs

variable {api : Api}

/-- A run that settles its request once is settled truthfully, unless it is a registration that
puts its success without reason. -/
theorem settledTruthfully_of_once {run : Run} (honce : (run.saga api).Settles run.settles)
    (hrequests : ∀ action ∈ (run.saga api).puts, action.isRequest = false)
    (htruthful : ∀ merchant, .fetchPartnerSubmitSuccess merchant ∈ (run.saga api).puts →
      ∃ value callback, run = .setPartnerSubmit value callback ∧ api.Registers value merchant) :
    SettledTruthfully api run := by
  refine ⟨honce, fun state ↦ ?_, htruthful⟩
  obtain ⟨action, haction⟩ := List.length_eq_one_iff.mp honce
  have hmem : action ∈ (run.saga api).puts.filter run.settles :=
    haction ▸ List.mem_singleton_self action
  exact pending_foldl hrequests (List.mem_filter.mp hmem).1 (List.mem_filter.mp hmem).2 state

theorem setPartnerSubmit_cases (value : PartnerSubmitRequest)
    (callback : Partner → Except Thrown Unit) :
    (∃ partner merchant, api.fetchPartnersSubmit value = .ok partner ∧
      callback partner = .ok () ∧
      api.createMerchants partner.partnerId partner.name = .ok merchant ∧
      (setPartnerSubmitSaga api value callback).puts = [.fetchPartnerSubmitSuccess merchant]) ∨
    ((∀ partner merchant, api.fetchPartnersSubmit value = .ok partner →
      callback partner = .ok () →
      api.createMerchants partner.partnerId partner.name ≠ .ok merchant) ∧
      ∃ error, (setPartnerSubmitSaga api value callback).puts =
        [.fetchPartnerSubmitFailure error]) := by
  unfold setPartnerSubmitSaga
  cases hpartner : api.fetchPartnersSubmit value with
  | error e => exact .inr ⟨by simp, e.message, rfl⟩
  | ok partner =>
    cases hcallback : callback partner with
    | error e =>
      refine .inr ⟨?_, e.message, by simp [hcallback, ok_bind, error_bind, pure_promise]⟩
      rintro _ _ ⟨⟩ hdone
      cases hcallback.symm.trans hdone
    | ok =>
      cases hmerchant : api.createMerchants partner.partnerId partner.name with
      | error e =>
        refine .inr ⟨?_, e.message,
          by simp [hcallback, hmerchant, ok_bind, error_bind, pure_promise]⟩
        rintro _ merchant ⟨⟩ - hcreated
        cases hmerchant.symm.trans hcreated
      | ok merchant =>
        exact .inl ⟨partner, merchant, rfl, hcallback, hmerchant,
          by simp [hcallback, hmerchant, notAwaited, ok_bind, pure_promise]⟩

theorem patchPartnerSubmit_cases (value : PartnerSubmitPatchRequest) (partnerID : String)
    (callback : Partner → Except Thrown Unit) :
    ∃ action, (patchPartnerSubmitSaga api value partnerID callback).puts = [action] ∧
      ((∃ data, action = .patchPartnerSubmitSuccess data) ∨
        ∃ error, action = .patchPartnerSubmitFailure error) := by
  unfold patchPartnerSubmitSaga
  cases hpartner : api.patchPartnersSubmit value partnerID with
  | error e => exact ⟨_, rfl, .inr ⟨_, rfl⟩⟩
  | ok partner =>
    cases hcallback : callback partner with
    | error e =>
      exact ⟨_, by simp [hcallback, ok_bind, error_bind, pure_promise], .inr ⟨e.message, rfl⟩⟩
    | ok => exact ⟨_, by simp [hcallback, ok_bind, pure_promise], .inl ⟨partner, rfl⟩⟩

/-- The sagas of the two registrations put one action, and no request. -/
theorem settledTruthfully_of_puts {run : Run} {action : Action}
    (hputs : (run.saga api).puts = [action]) (hsettles : run.settles action = true)
    (hrequest : action.isRequest = false)
    (htruthful : ∀ merchant, action = .fetchPartnerSubmitSuccess merchant →
      ∃ value callback, run = .setPartnerSubmit value callback ∧ api.Registers value merchant) :
    SettledTruthfully api run := by
  refine settledTruthfully_of_once ?_ ?_ fun merchant hmem ↦ ?_
  · rw [Saga.Settles, hputs, List.filter_cons_of_pos hsettles]
    rfl
  · rw [hputs]
    exact fun a ha ↦ List.mem_singleton.mp ha ▸ hrequest
  · rw [hputs] at hmem
    exact htruthful merchant (List.mem_singleton.mp hmem).symm

theorem setPartnerSubmit_iff (value : PartnerSubmitRequest)
    (callback : Partner → Except Thrown Unit) :
    SettledTruthfully api (.setPartnerSubmit value callback) ↔
      (Run.setPartnerSubmit value callback).Settling api := by
  rcases setPartnerSubmit_cases value callback with
    ⟨partner, merchant, hpartner, hcallback, hmerchant, hputs⟩ | ⟨hnone, error, hputs⟩
  · constructor
    · intro htrue partner' merchant' hpartner' hcallback' hmerchant'
      obtain rfl := Except.ok.inj (hpartner.symm.trans hpartner')
      obtain rfl := Except.ok.inj (hmerchant.symm.trans hmerchant')
      obtain ⟨value', callback', hrun, partner', hvalue, -, horigin⟩ :=
        htrue.truthful merchant (hputs ▸ List.mem_singleton_self _)
      obtain ⟨rfl, -⟩ := Run.setPartnerSubmit.inj hrun
      obtain rfl := Except.ok.inj (hpartner.symm.trans hvalue)
      exact horigin
    · intro hsettling
      refine settledTruthfully_of_puts hputs rfl rfl fun merchant' h ↦ ?_
      obtain rfl := Action.fetchPartnerSubmitSuccess.inj h
      exact ⟨value, callback, rfl, partner, hpartner, hmerchant,
        hsettling partner merchant hpartner hcallback hmerchant⟩
  · refine iff_of_true ?_ fun partner merchant hpartner hcallback hmerchant ↦ ?_
    · exact settledTruthfully_of_puts hputs rfl rfl fun merchant h ↦ by cases h
    · exact absurd hmerchant (hnone partner merchant hpartner hcallback)

theorem patchPartnerSubmit_settled (value : PartnerSubmitPatchRequest) (partnerID : String)
    (callback : Partner → Except Thrown Unit) :
    SettledTruthfully api (.patchPartnerSubmit value partnerID callback) := by
  obtain ⟨action, hputs, hsettles⟩ := @patchPartnerSubmit_cases api value partnerID callback
  refine settledTruthfully_of_puts hputs ?_ ?_ fun merchant h ↦ ?_ <;>
    rcases hsettles with ⟨data, rfl⟩ | ⟨error, rfl⟩ <;> first | rfl | cases h

theorem getPartnerMerchants_twice (h : api.FailsBehindMerchants)
    (partnerData : Option PartnerData) :
    ∃ partner merchant error, (getPartnerMerchantsSaga api partnerData).puts =
      [.setPartnerDataRequest partner, .fetchPartnerMerchantsSuccess merchant,
        .fetchPartnerMerchantsFailure error] := by
  obtain ⟨partners, partner, merchants, merchant, e, hpartners, hpartner, hmerchants, hmerchant,
    hfails⟩ := h
  refine ⟨partner.data, some merchants.head?, e.message, ?_⟩
  simp [getPartnerMerchantsSaga, getMerchantsOf, getIntegrationsOf, hpartners, hpartner, hmerchants,
    hmerchant, hfails]

/-- In every other case one of the two actions is put, with the data of the partner before it and
the success of its provider behind. -/
theorem getPartnerMerchants_once (h : ¬ api.FailsBehindMerchants)
    (partnerData : Option PartnerData) :
    ∃ before action after, (getPartnerMerchantsSaga api partnerData).puts =
        before ++ action :: after ∧
      ((∃ payload, action = .fetchPartnerMerchantsSuccess payload) ∨
        ∃ error, action = .fetchPartnerMerchantsFailure error) ∧
      (∀ a ∈ before, ∃ value, a = .setPartnerDataRequest value) ∧
      ∀ a ∈ after, ∃ payload, a = .fetchProviderSubmitSuccess payload := by
  unfold getPartnerMerchantsSaga
  cases hpartners : api.getPartners with
  | error e => exact ⟨[], _, [], rfl, .inr ⟨_, rfl⟩, by simp, by simp⟩
  | ok partners =>
    cases hpartner : firstPartner partners with
    | none => exact ⟨[], _, [], by simp [hpartner]; rfl, .inl ⟨_, rfl⟩, by simp, by simp⟩
    | some partner =>
      cases hmerchants : api.getMerchants partner.partnerId with
      | error e =>
        exact ⟨[.setPartnerDataRequest partner.data], .fetchPartnerMerchantsFailure e.message, [],
          by simp [hpartner, getMerchantsOf, hmerchants], .inr ⟨_, rfl⟩, by simp, by simp⟩
      | ok merchants =>
        cases hmerchant : firstMerchant merchants with
        | none =>
          exact ⟨[.setPartnerDataRequest partner.data],
            .fetchPartnerMerchantsSuccess (some merchants.head?), [],
            by simp [hpartner, getMerchantsOf, hmerchants, hmerchant]; rfl, .inl ⟨_, rfl⟩,
            by simp, by simp⟩
        | some merchant =>
          cases hintegrations : api.getIntegrations merchant.merchantId with
          | error e =>
            exact absurd ⟨partners, partner, merchants, merchant, e, hpartners, hpartner,
              hmerchants, hmerchant, hintegrations⟩ h
          | ok integrations =>
            refine ⟨[.setPartnerDataRequest partner.data],
              .fetchPartnerMerchantsSuccess (some merchants.head?),
              if partnerData.isSome then [.fetchProviderSubmitSuccess (some integrations.head?)]
              else [], ?_, .inl ⟨_, rfl⟩, by simp, ?_⟩
            · cases partnerData <;>
                simp [hpartner, getMerchantsOf, getIntegrationsOf, hmerchants, hmerchant,
                  hintegrations] <;> rfl
            · cases partnerData <;> simp

theorem getPartnerMerchants_iff (partnerData : Option PartnerData) :
    SettledTruthfully api (.getPartnerMerchants partnerData) ↔ ¬ api.FailsBehindMerchants := by
  constructor
  · intro htrue hfails
    obtain ⟨partner, merchant, error, hputs⟩ := getPartnerMerchants_twice hfails partnerData
    have honce : ((getPartnerMerchantsSaga api partnerData).puts.filter
        (Run.getPartnerMerchants partnerData).settles).length = 1 := htrue.once
    rw [hputs] at honce
    cases honce
  · intro h
    obtain ⟨before, action, after, hputs, hsettles, hbefore, hafter⟩ :=
      getPartnerMerchants_once h partnerData
    have hkind : (Run.getPartnerMerchants partnerData).settles action = true ∧
        action.isRequest = false ∧ ∀ merchant, .fetchPartnerSubmitSuccess merchant ≠ action := by
      rcases hsettles with ⟨payload, rfl⟩ | ⟨error, rfl⟩
      · exact ⟨rfl, rfl, by simp⟩
      · exact ⟨rfl, rfl, by simp⟩
    have hother : ∀ a, a ∈ before ∨ a ∈ after →
        (Run.getPartnerMerchants partnerData).settles a = false ∧ a.isRequest = false ∧
          ∀ merchant, .fetchPartnerSubmitSuccess merchant ≠ a := by
      rintro a (ha | ha)
      · obtain ⟨value, rfl⟩ := hbefore a ha
        exact ⟨rfl, rfl, by simp⟩
      · obtain ⟨payload, rfl⟩ := hafter a ha
        exact ⟨rfl, rfl, by simp⟩
    have hall : ∀ a ∈ before ++ action :: after,
        a.isRequest = false ∧ ∀ merchant, .fetchPartnerSubmitSuccess merchant ≠ a := by
      intro a ha
      rcases List.mem_append.mp ha with hmem | hmem
      · exact (hother a (.inl hmem)).2
      · rcases List.mem_cons.mp hmem with rfl | hmem
        · exact hkind.2
        · exact (hother a (.inr hmem)).2
    have hnone : ∀ l : List Action, (∀ a ∈ l, a ∈ before ∨ a ∈ after) →
        l.filter (Run.getPartnerMerchants partnerData).settles = [] :=
      fun l hl ↦ List.filter_eq_nil_iff.mpr fun a ha ↦ by
        rw [(hother a (hl a ha)).1]
        exact Bool.noConfusion
    refine settledTruthfully_of_once ?_ ?_ fun merchant hmem ↦ ?_
    · change ((getPartnerMerchantsSaga api partnerData).puts.filter _).length = 1
      rw [hputs, List.filter_append, List.filter_cons_of_pos hkind.1,
        hnone before fun _ ↦ .inl, hnone after fun _ ↦ .inr]
      rfl
    · exact fun a ha ↦ (hall a (hputs ▸ ha)).1
    · exact absurd rfl ((hall _ (hputs ▸ hmem)).2 merchant)

theorem puts_catchProviderSubmit {onCatch : Option (Except Thrown Unit)}
    (h : onCatch.getD (.ok ()) = .ok ()) (e : Thrown) :
    (catchProviderSubmit onCatch e).puts = [.fetchProviderSubmitFailure e.message] := by
  rw [catchProviderSubmit, h, call_ok_bind, puts_put]

theorem puts_catchProviderSubmit_of_ne {onCatch : Option (Except Thrown Unit)}
    (h : onCatch.getD (.ok ()) ≠ .ok ()) (e : Thrown) :
    (catchProviderSubmit onCatch e).puts = [] := by
  rw [catchProviderSubmit]
  cases hcaught : onCatch.getD (.ok ()) with
  | ok => exact absurd hcaught h
  | error thrown => rw [call_error_bind]

theorem setProviderSubmit_cases (merchantId : String) (value : ProviderSubmitRequest)
    (callback : Except Thrown Unit) (onCatch : Option (Except Thrown Unit)) :
    ((Run.setProviderSubmit merchantId value callback onCatch).Settling api ∧
      ∃ action, (setProviderSubmitSaga api merchantId value callback onCatch).puts = [action] ∧
        ((∃ payload, action = .fetchProviderSubmitSuccess payload) ∨
          ∃ error, action = .fetchProviderSubmitFailure error)) ∨
    (¬ (Run.setProviderSubmit merchantId value callback onCatch).Settling api ∧
      (setProviderSubmitSaga api merchantId value callback onCatch).puts = []) := by
  unfold setProviderSubmitSaga
  cases hresponse : api.fetchProviderSubmit merchantId value with
  | error e =>
    by_cases h : onCatch.getD (.ok ()) = .ok ()
    · exact .inl ⟨.inr h, _, puts_catchProviderSubmit h e, .inr ⟨_, rfl⟩⟩
    · refine .inr ⟨?_, puts_catchProviderSubmit_of_ne h e⟩
      rintro (⟨response, hok, -⟩ | hok)
      · cases hresponse.symm.trans hok
      · exact h hok
  | ok response =>
    cases callback with
    | ok => exact .inl ⟨.inl ⟨response, hresponse, rfl⟩, _, rfl, .inl ⟨_, rfl⟩⟩
    | error e =>
      by_cases h : onCatch.getD (.ok ()) = .ok ()
      · exact .inl ⟨.inr h, _, puts_catchProviderSubmit h e, .inr ⟨_, rfl⟩⟩
      · refine .inr ⟨?_, puts_catchProviderSubmit_of_ne h e⟩
        rintro (⟨response, -, hok⟩ | hok)
        · cases hok
        · exact h hok

theorem setProviderSubmit_iff (merchantId : String) (value : ProviderSubmitRequest)
    (callback : Except Thrown Unit) (onCatch : Option (Except Thrown Unit)) :
    SettledTruthfully api (.setProviderSubmit merchantId value callback onCatch) ↔
      (Run.setProviderSubmit merchantId value callback onCatch).Settling api := by
  rcases @setProviderSubmit_cases api merchantId value callback onCatch with
    ⟨hsettling, action, hputs, hsettles⟩ | ⟨hnot, hputs⟩
  · refine iff_of_true (settledTruthfully_of_puts hputs ?_ ?_ fun merchant h ↦ ?_) hsettling <;>
      rcases hsettles with ⟨payload, rfl⟩ | ⟨error, rfl⟩ <;> first | rfl | cases h
  · refine iff_of_false (fun htrue ↦ ?_) hnot
    have honce : ((setProviderSubmitSaga api merchantId value callback onCatch).puts.filter
        (Run.setProviderSubmit merchantId value callback onCatch).settles).length = 1 := htrue.once
    rw [hputs] at honce
    cases honce

theorem setFutureProviderSubmit_iff (merchantId providerName : String)
    (fields : ProviderApplicationRequest) :
    SettledTruthfully api (.setFutureProviderSubmit merchantId providerName fields) ↔
      (Run.setFutureProviderSubmit merchantId providerName fields).Settling api := by
  have hputs : ∀ puts,
      (setFutureProviderSubmitSaga api merchantId providerName fields).puts = puts →
      ((Run.setFutureProviderSubmit merchantId providerName fields).saga api).puts = puts :=
    fun _ h ↦ h
  cases hstate : api.fetchProviderApplication merchantId fields with
  | error e =>
    refine iff_of_true (settledTruthfully_of_puts (hputs
      [.fetchProviderApplicationSubmitFailure providerName] ?_) rfl rfl fun merchant h ↦ ?_) ?_
    · simp [setFutureProviderSubmitSaga, hstate]
    · cases h
    · intro state h
      cases hstate.symm.trans h
  | ok state =>
    by_cases hdone : state = .successed
    · refine iff_of_true (settledTruthfully_of_puts (hputs
        [.fetchProviderApplicationSubmitSuccess providerName] ?_) rfl rfl fun merchant h ↦ ?_) ?_
      · simp [setFutureProviderSubmitSaga, hstate, hdone]
      · cases h
      · intro state' h
        obtain rfl := Except.ok.inj (hstate.symm.trans h)
        exact hdone
    · refine iff_of_false (fun htrue ↦ ?_) fun h ↦ hdone (h state hstate)
      have hnone : (setFutureProviderSubmitSaga api merchantId providerName fields).puts = [] := by
        simp [setFutureProviderSubmitSaga, hstate, hdone]
        rfl
      have honce := htrue.once
      rw [Saga.Settles, hputs [] hnone] at honce
      cases honce

end Runs

/-- For any outcomes of the calls, a run is settled truthfully exactly with the outcomes above. -/
theorem settled_truthfully_iff (api : Api) (run : Run) :
    SettledTruthfully api run ↔ run.Settling api := by
  cases run with
  | setPartnerSubmit value callback => exact setPartnerSubmit_iff value callback
  | patchPartnerSubmit value partnerID callback =>
    exact iff_of_true (patchPartnerSubmit_settled value partnerID callback) trivial
  | getPartnerMerchants partnerData => exact getPartnerMerchants_iff partnerData
  | setProviderSubmit merchantId value callback onCatch =>
    exact setProviderSubmit_iff merchantId value callback onCatch
  | setFutureProviderSubmit merchantId providerName fields =>
    exact setFutureProviderSubmit_iff merchantId providerName fields

/-! ### A server whose later calls fail -/

def bookPartner : Partner :=
  ⟨⟨"Bookshop", ⟨"ogrn", "inn", "kpp", ⟨"shop@bookshop", "+7"⟩, "ceo", "Bookshop", "", ""⟩⟩,
    "partner-1"⟩

def bookMerchant : Merchant := ⟨"partner-1", "merchant-1", "Bookshop"⟩

/-- Partners and merchants are created and loaded; origins and integrations fail, and applications
are still being processed. -/
def laterCallsFail : Api where
  fetchPartnersSubmit := fun _ ↦ .ok bookPartner
  patchPartnersSubmit := fun _ _ ↦ .ok bookPartner
  createMerchants := fun _ _ ↦ .ok bookMerchant
  setOrigins := fun _ _ _ ↦ .error ⟨some "Network Error"⟩
  getPartners := .ok [bookPartner]
  getMerchants := fun _ ↦ .ok [bookMerchant]
  getIntegrations := fun _ ↦ .error ⟨some "Network Error"⟩
  fetchProviderSubmit := fun _ _ ↦ .error ⟨some "Network Error"⟩
  fetchProviderApplication := fun _ _ ↦ .ok .processing

/-- A registration whose origin fails, merchants whose integrations fail, a provider whose `onCatch`
throws, and an application that is being processed. -/
def untruthfulRuns : List (Run × List Action) :=
  [(.setPartnerSubmit bookPartner.toPartnerSubmitRequest fun _ ↦ .ok (),
      [.fetchPartnerSubmitSuccess bookMerchant]),
    (.getPartnerMerchants none,
      [.setPartnerDataRequest bookPartner.data,
        .fetchPartnerMerchantsSuccess (some (some bookMerchant)),
        .fetchPartnerMerchantsFailure (some "Network Error")]),
    (.setProviderSubmit "merchant-1" ⟨.payture, "creds"⟩ (.ok ()) (some (.error ⟨none⟩)), []),
    (.setFutureProviderSubmit "merchant-1" "provider" ⟨none, none, none, none, none⟩, [])]

theorem not_settledTruthfully :
    untruthfulRuns.Forall fun run ↦
      (run.1.saga laterCallsFail).puts = run.2 ∧ ¬ SettledTruthfully laterCallsFail run.1 := by
  refine ⟨⟨rfl, ?_⟩, ⟨rfl, ?_⟩, ⟨rfl, ?_⟩, ⟨rfl, ?_⟩⟩
  · rw [setPartnerSubmit_iff]
    intro h
    cases h bookPartner bookMerchant rfl rfl rfl
  · rw [getPartnerMerchants_iff, not_not]
    exact ⟨_, bookPartner, _, bookMerchant, _, rfl, rfl, rfl, rfl, rfl⟩
  · rw [setProviderSubmit_iff]
    rintro (⟨response, h, -⟩ | h)
    · cases h
    · cases h
  · rw [setFutureProviderSubmit_iff]
    intro h
    cases h .processing rfl

end YandexPay.Console
