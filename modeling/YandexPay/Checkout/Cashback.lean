import YandexPay.Checkout.Process
import YandexPay.Library.OpenRequests

/-!
# The cashback of the payment method

`loadCashback` of `checkout/store/payment/services.ts` and its callers: `selectPaymentMethod` and,
after a change of the order, `updatePaymentInfo`. None of them waits for the load before it, and
each answer is stored whatever has been selected since. The store with its open loads is a
transition system; its events are the calls and the answers.

`cashback_of_active` says in which runs the stored cashback is that of the active payment method
whenever no load is in flight.
-/

set_option autoImplicit false
set_option relaxedAutoImplicit false

namespace YandexPay.Checkout

open Transition OpenRequests

/-! ### Loads -/

structure PaymentCashback where
  amount : String
  category : String
  percents : Option String
  deriving DecidableEq

/-- `CashbackPayload` -/
inductive CashbackPayload
  | sheet (cardId : String) (sheet : PaymentSheet)
  | checkoutSheet (cardId merchantId : String) (cartTotal : Price) (currencyCode : String)
  deriving DecidableEq

def CashbackPayload.cardId : CashbackPayload → String
  | .sheet cardId _ | .checkoutSheet cardId _ _ _ => cardId

def SheetPaymentMethod.hasGateway : SheetPaymentMethod → Bool
  | .card gateway _ _ _ => gateway ≠ ""
  | .cash | .split => false

def isPaymentSheet (sheet : PaymentSheet) : Bool :=
  sheet.merchant.name ≠ "" && sheet.paymentMethods.any SheetPaymentMethod.hasGateway

/-- The request of `loadCashback` in `pay-api/api/cashback.ts`. -/
def cashbackPayload (sheet : PaymentSheet) (cardId : String) : CashbackPayload :=
  if isPaymentSheet sheet then .sheet cardId sheet
  else .checkoutSheet cardId sheet.merchant.id sheet.order.total.amount sheet.currencyCode

/-- `Async.Data<PaymentCashback>`; `cardId` is the payment method of the load, and is kept for the
statements. -/
inductive Cashback
  | initial
  | success (cardId : String) (result : PaymentCashback)
  | error (cardId : String) (reason : String)
  deriving DecidableEq

def Cashback.cardId : Cashback → Option String
  | .initial => none
  | .success cardId _ | .error cardId _ => some cardId

/-! ### The store -/

/-- What the loads read and write, the open loads in the order in which they were started, and the
number of selections that have not started theirs. The sheet is `none` as long as it has no
merchant. -/
structure CashbackStore where
  sheet : Option PaymentSheet
  selectedId : String
  cashback : Cashback
  loading : List CashbackPayload
  selecting : ℕ
  deriving DecidableEq

namespace CashbackStore

variable (s : CashbackStore)

/-- `loadCashback` up to its request; without a merchant the request cannot be made. -/
def loadCashback : CashbackStore :=
  if s.selectedId = CASH_KEY then { s with cashback := .initial }
  else
    match s.sheet with
    | none => { s with cashback := .error s.selectedId "Unable to load cashback" }
    | some sheet => { s with loading := s.loading ++ [cashbackPayload sheet s.selectedId] }

/-- The rest of `loadCashback`. -/
def setCashback (index : ℕ) (cashback : Cashback) : CashbackStore :=
  { s with
    cashback := cashback
    loading := s.loading.eraseIdx index }

def setSheetOrder (order : SheetOrder) : CashbackStore :=
  { s with sheet := s.sheet.map fun sheet ↦ { sheet with order := order } }

end CashbackStore

/-- A selection starts its load only after the next turn of the event loop. -/
inductive CashbackEvent
  | selectPaymentMethod (paymentMethodId : String)
  | selected
  | setSheet (sheet : PaymentSheet)
  | setSheetOrder (order : SheetOrder)
  | updatePaymentInfo
  | loaded (index : ℕ) (result : PaymentCashback)
  | failed (index : ℕ)
  deriving DecidableEq

namespace CashbackStore

def step (s : CashbackStore) : CashbackEvent → Option CashbackStore
  | .selectPaymentMethod paymentMethodId =>
    some { s with
      selectedId := paymentMethodId
      selecting := s.selecting + 1 }
  | .selected =>
    match s.selecting with
    | 0 => none
    | selecting + 1 => some { s with selecting := selecting }.loadCashback
  | .setSheet sheet => some { s with sheet := some sheet }
  | .setSheetOrder order => some (s.setSheetOrder order)
  | .updatePaymentInfo => some s.loadCashback
  | .loaded index result =>
    s.loading[index]?.map fun payload ↦ s.setCashback index (.success payload.cardId result)
  | .failed index =>
    s.loading[index]?.map fun payload ↦
      s.setCashback index (.error payload.cardId "Unable to load cashback")

def initial : CashbackStore := ⟨none, "", .initial, [], 0⟩

/-- The payment method whose cashback is to be stored; for cash there is none. -/
def active (s : CashbackStore) : Option String :=
  if s.selectedId = CASH_KEY then none else some s.selectedId

/-- The stored cashback is that of the active payment method; before the first selection none is
active. -/
def OfActive (s : CashbackStore) : Prop :=
  s.cashback.cardId = s.active ∨ s.selectedId = "" ∧ s.cashback = .initial

instance (s : CashbackStore) : Decidable s.OfActive := inferInstanceAs (Decidable (_ ∨ _))

/-- No load is in flight, and no selection is about to start one. -/
def Quiet (s : CashbackStore) : Prop := s.selecting = 0 ∧ s.loading = []

instance (s : CashbackStore) : Decidable s.Quiet := inferInstanceAs (Decidable (_ ∧ _))

/-- The open load that was started just before the last one. -/
def loadBefore (s : CashbackStore) : Option CashbackPayload := s.loading.dropLast.getLast?

/-- With cash selected `loadCashback` is called only when no load is open, and the load started
last is not answered before an open one for another payment method. -/
def InOrder (s : CashbackStore) : CashbackEvent → Prop
  | .selected | .updatePaymentInfo => s.selectedId = CASH_KEY → s.loading = []
  | .loaded index _ | .failed index =>
    s.selecting = 0 → index + 1 = s.loading.length →
      ∀ payload ∈ s.loadBefore, payload.cardId = s.selectedId
  | _ => True

instance : ∀ (s : CashbackStore) (e : CashbackEvent), Decidable (s.InOrder e) := fun s e ↦ by
  unfold InOrder
  split <;> infer_instance

end CashbackStore

/-- The store under any calls, any answers and any order of them. -/
def cashbackLoads : System CashbackStore CashbackEvent where
  start := fun s ↦ s = .initial
  step := CashbackStore.step

/-- What a step does: a selection, an edit of the sheet, a call of `loadCashback`, or an answer. -/
inductive CashbackSteps (s : CashbackStore) : CashbackEvent → CashbackStore → Prop
  | selectPaymentMethod (paymentMethodId : String) :
    CashbackSteps s (.selectPaymentMethod paymentMethodId)
      { s with
        selectedId := paymentMethodId
        selecting := s.selecting + 1 }
  | edited {e : CashbackEvent} {sheet : Option PaymentSheet} (kept : sheet = none → s.sheet = none)
    (inOrder : s.InOrder e) : CashbackSteps s e { s with sheet := sheet }
  | loads {e : CashbackEvent} {selecting : ℕ}
    (inOrder : s.InOrder e ↔ (s.selectedId = CASH_KEY → s.loading = [])) :
    CashbackSteps s e { s with selecting := selecting }.loadCashback
  | answered {e : CashbackEvent} {index : ℕ} {payload : CashbackPayload} {cashback : Cashback}
    (started : s.loading[index]? = some payload)
    (cardId : cashback.cardId = some payload.cardId)
    (inOrder : s.InOrder e ↔ (s.selecting = 0 → index + 1 = s.loading.length →
      ∀ payload ∈ s.loadBefore, payload.cardId = s.selectedId)) :
    CashbackSteps s e (s.setCashback index cashback)

theorem cashbackSteps_of_step {s t : CashbackStore} {e : CashbackEvent}
    (h : cashbackLoads.step s e = some t) : CashbackSteps s e t := by
  change s.step e = some t at h
  cases e with
  | selectPaymentMethod paymentMethodId =>
    obtain rfl := Option.some.inj h
    exact .selectPaymentMethod paymentMethodId
  | selected =>
    simp only [CashbackStore.step] at h
    split at h
    · cases h
    · rename_i selecting hselecting
      obtain rfl := Option.some.inj h
      exact .loads Iff.rfl
  | setSheet sheet =>
    obtain rfl := Option.some.inj h
    exact .edited (fun hnone ↦ absurd hnone (Option.some_ne_none _)) trivial
  | setSheetOrder order =>
    obtain rfl := Option.some.inj h
    exact .edited Option.map_eq_none_iff.mp trivial
  | updatePaymentInfo =>
    obtain rfl := Option.some.inj h
    exact @CashbackSteps.loads s .updatePaymentInfo s.selecting Iff.rfl
  | loaded index result =>
    obtain ⟨payload, started, rfl⟩ := Option.map_eq_some_iff.mp h
    exact .answered started rfl Iff.rfl
  | failed index =>
    obtain ⟨payload, started, rfl⟩ := Option.map_eq_some_iff.mp h
    exact .answered started rfl Iff.rfl

/-! ### Loads in order -/

namespace CashbackStore

variable (s : CashbackStore)

/-- The payment methods of the open loads. -/
def cardIds : List String := s.loading.map CashbackPayload.cardId

/-- Once the open loads are answered in the order of their start, the cashback is that of the
active payment method. -/
def Current : Prop :=
  newest s.cardIds s.cashback.cardId = s.active ∨
    s.selectedId = "" ∧ s.loading = [] ∧ s.cashback = .initial

end CashbackStore

/-- The invariant of a run in order; without a merchant no request is made. -/
structure CashbackTracked (s : CashbackStore) : Prop where
  current : s.selecting = 0 → s.Current
  unmade : s.sheet = none → s.loading = []

section Loads

variable {s t : CashbackStore} {e : CashbackEvent}

theorem active_of_ne (h : s.selectedId ≠ CASH_KEY) : s.active = some s.selectedId := if_neg h

theorem active_of_some {cardId : String} (h : s.active = some cardId) :
    s.active = some s.selectedId := by
  refine active_of_ne fun hcash ↦ ?_
  rw [CashbackStore.active, if_pos hcash] at h
  cases h

theorem CashbackStore.Current.ofActive (h : s.Current) (hloading : s.loading = []) :
    s.OfActive := by
  rcases h with hnewest | ⟨hnone, -, hinitial⟩
  · rw [CashbackStore.cardIds, hloading] at hnewest
    exact .inl hnewest
  · exact .inr ⟨hnone, hinitial⟩

theorem tracked_loadCashback (hunmade : s.sheet = none → s.loading = [])
    (horder : s.selectedId = CASH_KEY → s.loading = []) : CashbackTracked s.loadCashback := by
  rw [CashbackStore.loadCashback]
  split_ifs with hcash
  · refine ⟨fun _ ↦ .inl ?_, hunmade⟩
    rw [CashbackStore.cardIds, horder hcash]
    exact (if_pos hcash).symm
  · split
    · rename_i hsheet
      refine ⟨fun _ ↦ .inl ?_, hunmade⟩
      rw [CashbackStore.cardIds, hunmade hsheet]
      exact (active_of_ne hcash).symm
    · rename_i sheet hsheet
      refine ⟨fun _ ↦ .inl ?_, fun hnone ↦ absurd (hsheet.symm.trans hnone) (Option.some_ne_none _)⟩
      have hcard : (cashbackPayload sheet s.selectedId).cardId = s.selectedId := by
        rw [cashbackPayload]
        split_ifs <;> rfl
      rw [CashbackStore.cardIds, List.map_append, List.map_singleton, newest_append_singleton,
        hcard]
      exact (active_of_ne hcash).symm

/-- While a load is open, the one started last is for the active payment method. -/
theorem CashbackStore.Current.newest_eq (h : s.Current) (hloading : s.loading ≠ []) :
    newest s.cardIds s.cashback.cardId = s.active := by
  rcases h with hnewest | ⟨-, hnone, -⟩
  · exact hnewest
  · exact absurd hnone hloading

theorem current_setCashback (h : s.Current) {index : ℕ} {payload : CashbackPayload}
    (started : s.loading[index]? = some payload) {cashback : Cashback}
    (cardId : cashback.cardId = some payload.cardId)
    (horder : index + 1 = s.loading.length →
      ∀ payload ∈ s.loadBefore, payload.cardId = s.selectedId) :
    (s.setCashback index cashback).Current := by
  have hlt : index < s.loading.length := (List.getElem?_eq_some_iff.mp started).1
  have hnewest := h.newest_eq (List.ne_nil_of_length_pos (by omega))
  have hlength : s.cardIds.length = s.loading.length := List.length_map _
  have hkeys : (s.setCashback index cashback).cardIds = s.cardIds.eraseIdx index :=
    (List.eraseIdx_map _ _ _).symm
  refine .inl ?_
  change newest (s.setCashback index cashback).cardIds cashback.cardId = s.active
  rw [hkeys]
  by_cases hlast : index + 1 = s.loading.length
  · have hkey : s.cardIds[index]? = some payload.cardId := by
      rw [CashbackStore.cardIds, List.getElem?_map, started]
      rfl
    rw [newest_of_getElem? (hlast.trans hlength.symm) hkey] at hnewest
    rw [newest_eraseIdx_of_eq (hlast.trans hlength.symm), cardId]
    have hbefore : newest s.cardIds.dropLast (some payload.cardId) =
        (s.loadBefore.map CashbackPayload.cardId).or (some payload.cardId) := by
      rw [newest, CashbackStore.cardIds, ← List.map_dropLast, List.getLast?_map,
        CashbackStore.loadBefore]
    rw [hbefore]
    cases hload : s.loadBefore with
    | none => exact hnewest
    | some before =>
      rw [active_of_some hnewest.symm, ← horder hlast before hload]
      rfl
  · rw [newest_eraseIdx_of_lt (by omega) s.cashback.cardId]
    exact hnewest

theorem tracked_step (h : CashbackTracked s) (horder : s.InOrder e)
    (hstep : cashbackLoads.step s e = some t) : CashbackTracked t := by
  cases cashbackSteps_of_step hstep with
  | selectPaymentMethod paymentMethodId =>
    exact ⟨fun hnone ↦ absurd hnone (Nat.succ_ne_zero _), h.unmade⟩
  | edited kept inOrder => exact ⟨h.current, fun hnone ↦ h.unmade (kept hnone)⟩
  | loads inOrder => exact tracked_loadCashback h.unmade (inOrder.mp horder)
  | answered started cardId inOrder =>
    refine ⟨fun hnone ↦ ?_, fun hnone ↦ ?_⟩
    · exact current_setCashback (h.current hnone) started cardId (inOrder.mp horder hnone)
    · -- Without a merchant there is nothing to answer.
      rw [h.unmade hnone] at started
      cases started

theorem tracked_of_reachable (h : cashbackLoads.Reachable CashbackStore.InOrder s) :
    CashbackTracked s := by
  refine h.invariant ?_ fun s e t hs horder hstep ↦ tracked_step hs horder hstep
  rintro s rfl
  exact ⟨fun _ ↦ .inr ⟨rfl, rfl, rfl⟩, fun _ ↦ rfl⟩

/-! ### Loads out of order -/

/-- The open loads answered in the order of their start. -/
theorem answered_in_order (s : CashbackStore) :
    ∃ t, cashbackLoads.Leads (fun _ _ ↦ True) s t ∧ t.loading = [] ∧
      t.selecting = s.selecting ∧ t.selectedId = s.selectedId ∧
      t.cashback.cardId = newest s.cardIds s.cashback.cardId := by
  induction hloading : s.loading generalizing s with
  | nil =>
    refine ⟨s, .refl s, hloading, rfl, rfl, ?_⟩
    rw [CashbackStore.cardIds, hloading]
    rfl
  | cons payload rest ih =>
    have hstep : cashbackLoads.step s (.failed 0) =
        some (s.setCashback 0 (.error payload.cardId "Unable to load cashback")) := by
      change s.step (.failed 0) = _
      rw [CashbackStore.step, hloading]
      rfl
    have hrest : (s.setCashback 0 (.error payload.cardId "Unable to load cashback")).loading =
        rest := by
      rw [CashbackStore.setCashback, hloading]
      rfl
    obtain ⟨t, hleads, hquiet, hselecting, hselected, hcard⟩ := ih _ hrest
    refine ⟨t, ((System.Leads.refl s).tail trivial hstep).trans hleads, hquiet, hselecting,
      hselected, hcard.trans ?_⟩
    rw [CashbackStore.cardIds, CashbackStore.cardIds, hrest, hloading]
    exact newest_tail _ _ _

/-- With cash selected, the selections that are about to load leave the open loads. -/
theorem selections_finish (hcash : s.selectedId = CASH_KEY) :
    ∃ t, cashbackLoads.Leads (fun _ _ ↦ True) s t ∧ t.selecting = 0 ∧ t.loading = s.loading ∧
      t.selectedId = s.selectedId := by
  induction hselecting : s.selecting generalizing s with
  | zero => exact ⟨s, .refl s, hselecting, rfl, rfl⟩
  | succ selecting ih =>
    have hstep : cashbackLoads.step s .selected =
        some { s with
          selecting := selecting
          cashback := .initial } := by
      change s.step .selected = _
      rw [CashbackStore.step, hselecting]
      exact congrArg some (if_pos hcash)
    obtain ⟨t, hleads, hquiet, hloading, hselected⟩ := @ih
      { s with
        selecting := selecting
        cashback := .initial } hcash rfl
    exact ⟨t, ((System.Leads.refl s).tail trivial hstep).trans hleads, hquiet, hloading, hselected⟩

/-- When the last of the open loads is not for the active payment method, its answer may come
last. -/
theorem stale_cashback (hfinish : s.selecting = 0 ∨ s.selectedId = CASH_KEY)
    (hloading : s.loading ≠ []) (hstale : newest s.cardIds s.cashback.cardId ≠ s.active) :
    ∃ t, cashbackLoads.Leads (fun _ _ ↦ True) s t ∧ t.Quiet ∧ ¬ t.OfActive := by
  obtain ⟨u, hleads, hselecting, hsame, hselected⟩ :
      ∃ u, cashbackLoads.Leads (fun _ _ ↦ True) s u ∧ u.selecting = 0 ∧ u.loading = s.loading ∧
        u.selectedId = s.selectedId := by
    rcases hfinish with hnone | hcash
    · exact ⟨s, .refl s, hnone, rfl, rfl⟩
    · exact selections_finish hcash
  obtain ⟨t, hanswered, hquiet, hselecting', hselected', hcard⟩ := answered_in_order u
  have hkeys : u.cardIds ≠ [] := by
    rw [CashbackStore.cardIds, hsame]
    exact fun h ↦ hloading (List.map_eq_nil_iff.mp h)
  have hnewest : newest u.cardIds u.cashback.cardId = newest s.cardIds s.cashback.cardId := by
    rw [newest_of_ne_nil hkeys _ s.cashback.cardId, CashbackStore.cardIds, hsame,
      CashbackStore.cardIds]
  have hactive : t.active = s.active := by
    rw [CashbackStore.active, hselected', hselected, CashbackStore.active]
  refine ⟨t, hleads.trans hanswered, ⟨hselecting'.trans hselecting, hquiet⟩, ?_⟩
  rintro (hof | ⟨-, hinitial⟩)
  · exact hstale (hnewest.symm.trans (hcard.symm.trans (hof.trans hactive)))
  · rw [hinitial, newest] at hcard
    obtain ⟨last, hlast⟩ := Option.isSome_iff_exists.mp (List.getLast?_isSome.mpr hkeys)
    rw [hlast] at hcard
    cases hcard

theorem newest_ne_active {cardId : String} (h : newest s.cardIds s.cashback.cardId = some cardId)
    (hne : cardId ≠ s.selectedId) : newest s.cardIds s.cashback.cardId ≠ s.active := by
  rw [h, CashbackStore.active]
  split_ifs
  · exact Option.some_ne_none _
  · exact fun heq ↦ hne (Option.some.inj heq)

/-- A step out of order leaves an open load that is not for the active payment method. -/
theorem stale_of_not_inOrder (hstep : cashbackLoads.step s e = some t) (hout : ¬ s.InOrder e) :
    (t.selecting = 0 ∨ t.selectedId = CASH_KEY) ∧ t.loading ≠ [] ∧
      newest t.cardIds t.cashback.cardId ≠ t.active := by
  cases cashbackSteps_of_step hstep with
  | selectPaymentMethod => exact absurd trivial hout
  | edited kept inOrder => exact absurd inOrder hout
  | @loads _ selecting inOrder =>
    obtain ⟨hcash, hopen⟩ := Classical.not_imp.mp (inOrder.not.mp hout)
    have hreset : { s with selecting := selecting }.loadCashback =
        { s with
          selecting := selecting
          cashback := .initial } := if_pos hcash
    rw [hreset]
    refine ⟨.inr hcash, hopen, ?_⟩
    obtain ⟨last, hlast⟩ := Option.isSome_iff_exists.mp (List.getLast?_isSome.mpr
      fun h ↦ hopen (List.map_eq_nil_iff.mp h) : (s.cardIds.getLast?).isSome)
    rw [CashbackStore.active, if_pos hcash, CashbackStore.cardIds, newest]
    change s.cardIds.getLast?.or none ≠ none
    rw [hlast]
    exact Option.some_ne_none _
  | @answered _ index payload cashback started cardId inOrder =>
    have hbreaks := inOrder.not.mp hout
    simp only [not_forall] at hbreaks
    obtain ⟨hnone, hlast, before, hbefore, hne⟩ := hbreaks
    have hlength : s.cardIds.length = s.loading.length := List.length_map _
    have hopen : s.loading.dropLast ≠ [] := by
      rintro h
      rw [CashbackStore.loadBefore, h] at hbefore
      cases hbefore
    have hloading : (s.setCashback index cashback).loading = s.loading.dropLast :=
      List.eraseIdx_eq_dropLast hlast
    refine ⟨.inl hnone, hloading ▸ hopen, newest_ne_active ?_ hne⟩
    rw [CashbackStore.cardIds, hloading, List.map_dropLast, newest, ← List.map_dropLast,
      List.getLast?_map]
    rw [CashbackStore.loadBefore] at hbefore
    rw [hbefore]
    rfl

/-- In a run in order, the stored cashback is that of the active payment method whenever no load is
in flight. From any step out of order a run leads to a cashback of another payment method. -/
theorem cashback_of_active (s : CashbackStore) :
    (cashbackLoads.Reachable CashbackStore.InOrder s → s.Quiet → s.OfActive) ∧
    ∀ e t, cashbackLoads.step s e = some t → ¬ s.InOrder e →
      ∃ u, cashbackLoads.Leads (fun _ _ ↦ True) t u ∧ u.Quiet ∧ ¬ u.OfActive := by
  refine ⟨fun hs hquiet ↦ ?_, fun e t hstep hout ↦ ?_⟩
  · exact ((tracked_of_reachable hs).current hquiet.1).ofActive hquiet.2
  · obtain ⟨hfinish, hopen, hstale⟩ := stale_of_not_inOrder hstep hout
    exact stale_cashback hfinish hopen hstale

end Loads

/-! ### Selections that overlap -/

def bookPaymentSheet : PaymentSheet where
  version := 2
  merchant := ⟨"merchant-1", "Bookshop"⟩
  currencyCode := "RUB"
  countryCode := "RU"
  requiredFields := ⟨⟨false, false⟩, ⟨false, false, false⟩, ⟨false, false⟩⟩
  additionalFields := ⟨false, false⟩
  order := ⟨"order-1", [], ⟨"500.00", none⟩⟩
  paymentMethods := [.card "gateway" "merchant-1" [.panOnly] [.visa], .cash]

/-- A card and then cash: the answer for the card comes after the selection of cash. -/
def cardThenCash : List CashbackEvent :=
  [.setSheet bookPaymentSheet, .selectPaymentMethod "card-1", .selected,
    .selectPaymentMethod CASH_KEY, .selected, .loaded 0 ⟨"50", "0.1", none⟩]

/-- A card and then another: the answer for the second comes first. -/
def cardThenCard : List CashbackEvent :=
  [.setSheet bookPaymentSheet, .selectPaymentMethod "card-1", .selected,
    .selectPaymentMethod "card-2", .selected, .failed 1, .loaded 0 ⟨"50", "0.1", none⟩]

/-- Events that leave the cashback of the first card, which is no longer selected. -/
def EndsStale (events : List CashbackEvent) : Prop :=
  ∃ s ∈ cashbackLoads.run (fun _ _ ↦ True) .initial events,
    cashbackLoads.Reachable (fun _ _ ↦ True) s ∧ s.Quiet ∧
      s.cashback = .success "card-1" ⟨"50", "0.1", none⟩ ∧ s.selectedId ≠ "card-1" ∧ ¬ s.OfActive

theorem endsStale_of_run {events : List CashbackEvent}
    (h : ∃ s ∈ cashbackLoads.run (fun _ _ ↦ True) .initial events, s.Quiet ∧
      s.cashback = .success "card-1" ⟨"50", "0.1", none⟩ ∧ s.selectedId ≠ "card-1" ∧
      ¬ s.OfActive) : EndsStale events := by
  obtain ⟨s, hs, hstale⟩ := h
  exact ⟨s, hs, ⟨_, rfl, System.leads_of_run hs⟩, hstale⟩

theorem stale_cashback_stored : EndsStale cardThenCash ∧ EndsStale cardThenCard :=
  ⟨endsStale_of_run (by decide), endsStale_of_run (by decide)⟩

end YandexPay.Checkout
