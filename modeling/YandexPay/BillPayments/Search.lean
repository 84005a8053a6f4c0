import YandexPay.BillPayments.Documents
import YandexPay.Library.Dict

/-!
# The search of bills

`core/actions/bill/search.py` and `core/entities/bill.py`. `SearchFinesAction.handle` is split at
its commits: `acquireUser` and `complete` are the two database transactions, `retry` reschedules,
and the statements between them are the pure functions `getPayerDocs`, `searchRequest` and
`toUnsubscribe`. The machine puts the parts together again.

`BillsRefresh` says what a search may do to the bills: a stored bill stays with its owner and its
supplier id, a paid bill stays as it is, and a bill that is paid afterwards was stored before.
`saveCharges_ok` shows it of the whole matching loop; the invariant of the loop is that the bills
still to be visited are stored unchanged.
-/

set_option autoImplicit false
set_option relaxedAutoImplicit false

namespace YandexPay.BillPayments

/-! ### Documents of a search -/

/-- `_get_payer_docs`: the values of the documents grouped by their code. -/
def getPayerDocs (documents : List Document) : List PayerDoc :=
  let codeToValues := documents.foldl
    (fun d doc ↦ d.set doc.code ((d.get? doc.code).getD [] ++ [doc.value]))
    (Dict.empty : Dict DocumentCode (List String))
  codeToValues.items.map fun p ↦ ⟨p.1, p.2⟩

/-- The code and value pairs that payer documents stand for. -/
def PayerDoc.Mentions (docs : List PayerDoc) (code : DocumentCode) (value : String) : Prop :=
  ∃ doc ∈ docs, doc.code = code ∧ value ∈ doc.value

/-- The grouping neither loses nor invents a document. -/
theorem mentions_getPayerDocs {documents : List Document} {code : DocumentCode}
    {value : String} : PayerDoc.Mentions (getPayerDocs documents) code value ↔
      ∃ d ∈ documents, d.code = code ∧ d.value = value := by
  have hfold : ∀ (l : List Document) (d : Dict DocumentCode (List String)),
      (∃ values, (code, values) ∈ (l.foldl (fun d doc ↦
          d.set doc.code ((d.get? doc.code).getD [] ++ [doc.value])) d).items ∧
        value ∈ values) ↔
      (∃ values, (code, values) ∈ d.items ∧ value ∈ values) ∨
        ∃ x ∈ l, x.code = code ∧ x.value = value := by
    intro l
    induction l with
    | nil => simp
    | cons x l ih =>
      intro d
      rw [List.foldl_cons, ih]
      have hset : (∃ values, (code, values) ∈
            (d.set x.code ((d.get? x.code).getD [] ++ [x.value])).items ∧ value ∈ values) ↔
          (∃ values, (code, values) ∈ d.items ∧ value ∈ values) ∨
            (x.code = code ∧ x.value = value) := by
        simp only [← Dict.get?_eq_some_iff, Dict.get?_set]
        by_cases hcode : code = x.code
        · subst hcode
          cases hget : d.get? x.code with
          | none => simp [eq_comm]
          | some values => simp [eq_comm]
        · simp [hcode, Ne.symm hcode]
      rw [hset, List.exists_mem_cons_iff, or_assoc]
  have hspec := hfold documents Dict.empty
  simp only [Dict.empty, List.not_mem_nil, false_and, exists_false, false_or] at hspec
  rw [← hspec]
  unfold PayerDoc.Mentions getPayerDocs
  constructor
  · rintro ⟨doc, hdoc, rfl, hvalue⟩
    obtain ⟨p, hp, rfl⟩ := List.mem_map.mp hdoc
    exact ⟨p.2, hp, hvalue⟩
  · rintro ⟨values, hmem, hvalue⟩
    exact ⟨⟨code, values⟩, List.mem_map.mpr ⟨_, hmem, rfl⟩, rfl, hvalue⟩

/-- The request of `SearchFinesAction.handle`. -/
def searchRequest (user : User) (documents : List Document) : SearchRequest where
  documents := getPayerDocs documents
  department := .gibdd
  subscribe := user.subscriptionId

/-- `_document_is_present` -/
def documentIsPresent (documents : List Document) (code : DocumentCode) (value : String) : Bool :=
  documents.any fun doc ↦ doc.code = code ∧ doc.value = value

/-- The documents of a subscription that `_unsubscribe_if_needed` removes. -/
def toUnsubscribe (documents : List Document) (subscription : List PayerDoc) : List PayerDoc :=
  subscription.flatMap fun doc ↦
    (doc.value.filter fun value ↦ ¬ documentIsPresent documents doc.code value).map fun value ↦
      ⟨doc.code, [value]⟩

/-- The step unsubscribes exactly what the user no longer has. -/
theorem mentions_toUnsubscribe {documents : List Document} {subscription : List PayerDoc}
    {code : DocumentCode} {value : String} :
    PayerDoc.Mentions (toUnsubscribe documents subscription) code value ↔
      PayerDoc.Mentions subscription code value ∧
        ¬ ∃ d ∈ documents, d.code = code ∧ d.value = value := by
  have hpresent : ∀ c v, documentIsPresent documents c v = true ↔
      ∃ d ∈ documents, d.code = c ∧ d.value = v := by
    intro c v
    simp [documentIsPresent]
  unfold PayerDoc.Mentions toUnsubscribe
  simp only [List.mem_flatMap, List.mem_map, List.mem_filter, decide_eq_true_eq]
  constructor
  · rintro ⟨doc, ⟨source, hsource, v, ⟨hv, habsent⟩, rfl⟩, rfl, hvalue⟩
    obtain rfl : value = v := by simpa using hvalue
    exact ⟨⟨source, hsource, rfl, hv⟩, fun h ↦ habsent ((hpresent _ _).mpr h)⟩
  · rintro ⟨⟨source, hsource, rfl, hv⟩, habsent⟩
    refine ⟨⟨source.code, [value]⟩, ⟨source, hsource, value, ⟨hv, ?_⟩, rfl⟩, rfl, by simp⟩
    exact fun h ↦ habsent ((hpresent _ _).mp h)

/-! ### From a charge to a bill -/

/-- `_find_document` -/
def findDocument (documents : List Document) (charge : Charge) : Action Document :=
  match documents.find? fun doc ↦
      doc.code = charge.document.code ∧ doc.value ∈ charge.document.value with
  | some document => pure document
  | none => throw .documentNotFound

/-- `charge_to_bill`; an amount of zero fails its assertion as a missing one does. -/
def chargeToBill (uid : ℤ) (charge : Charge) (documentId billId : UUID) : Action Bill :=
  match charge.department, charge.chargeData with
  | some department, some data =>
    match data.amount, data.amountToPay with
    | some amount, some amountToPay =>
      if amount = 0 ∨ amountToPay = 0 then throw .assertionFailed
      else
        let bill : Bill :=
          { billId, uid, supplierBillId := charge.supplierBillId, documentId, status := .new,
            amount, amountToPay, billDate := data.billDate, purpose := data.purpose,
            kbk := data.kbk, oktmo := data.oktmo, inn := data.inn, kpp := data.kpp,
            bik := data.bik, accountNumber := data.accountNumber, payeeName := data.payeeName,
            payerName := data.payerName, divId := data.divId,
            treasureBranch := data.treasureBranch, depType := some department }
        let bill := match data.additionalData with
          | none => bill
          | some additional =>
            { bill with
              discountDate := additional.discountDate, discountSize := additional.discountSize,
              legalAct := additional.legalAct, offenseName := additional.offenseName,
              offensePlace := additional.offensePlace, offenseDate := additional.offenseDate }
        pure <| match data.paymentData with
          | none => bill
          | some payment => { bill with paidAmount := payment.sum, paidDate := payment.date }
    | _, _ => throw .assertionFailed
  | _, _ => throw .assertionFailed

/-- A bill made from a charge belongs to the user, keeps the supplier id and is new. -/
theorem chargeToBill_ok {uid : ℤ} {charge : Charge} {documentId billId : UUID} {bill : Bill}
    {db db' : Database}
    (h : chargeToBill uid charge documentId billId db = .ok (bill, db')) :
    db' = db ∧ bill.billId = billId ∧ bill.uid = uid ∧
      bill.supplierBillId = charge.supplierBillId ∧ bill.status = .new := by
  obtain ⟨document, supplierBillId, department, chargeData⟩ := charge
  rcases department with _ | department
  · exact (Tx.throw_ne_ok.mp h).elim
  rcases chargeData with _ | data
  · exact (Tx.throw_ne_ok.mp h).elim
  obtain ⟨billDate, amountToPay, purpose, kbk, oktmo, inn, kpp, bik, accountNumber, payeeName,
    divId, amount, payerName, treasureBranch, additionalData, paymentData⟩ := data
  rcases amount with _ | amount
  · exact (Tx.throw_ne_ok.mp h).elim
  rcases amountToPay with _ | amountToPay
  · exact (Tx.throw_ne_ok.mp h).elim
  simp only [chargeToBill] at h
  split_ifs at h with hzero
  · exact (Tx.throw_ne_ok.mp h).elim
  obtain ⟨rfl, rfl⟩ := Tx.pure_eq_ok.mp h
  cases additionalData <;> cases paymentData <;> exact ⟨rfl, rfl, rfl, rfl, rfl⟩

namespace SearchFinesAction

/-- `SearchFinesAction._charge_to_bill` -/
def chargeToBill (action : SearchFinesAction) (documents : List Document) (charge : Charge)
    (billId : UUID) : Action Bill := do
  let document ← findDocument documents charge
  BillPayments.chargeToBill action.uid charge document.documentId billId

theorem chargeToBill_ok {action : SearchFinesAction} {documents : List Document}
    {charge : Charge} {billId : UUID} {bill : Bill} {db db' : Database}
    (h : action.chargeToBill documents charge billId db = .ok (bill, db')) :
    db' = db ∧ bill.billId = billId ∧ bill.uid = action.uid ∧
      bill.supplierBillId = charge.supplierBillId ∧ bill.status = .new := by
  rw [SearchFinesAction.chargeToBill, Tx.bind_eq_ok] at h
  obtain ⟨document, db₁, hfind, h⟩ := h
  have hdb₁ : db₁ = db := by
    unfold findDocument at hfind
    generalize List.find? _ documents = found at hfind
    cases found with
    | none => exact (Tx.throw_ne_ok.mp hfind).elim
    | some _ => exact (Tx.pure_eq_ok.mp hfind).2
  subst hdb₁
  exact BillPayments.chargeToBill_ok h

end SearchFinesAction

/-! ### What a search may do to the bills -/

/-- No stored bill disappears, changes owner or supplier id, or stops being paid, and no bill
becomes paid. -/
structure BillsRefresh (bills bills' : Table Bill.billId) : Prop where
  kept : ∀ b ∈ bills, ∃ b' ∈ bills', b'.billId = b.billId ∧ b'.uid = b.uid ∧
    b'.supplierBillId = b.supplierBillId ∧ (b.status = .paid → b' = b)
  paid : ∀ b' ∈ bills', b'.status = .paid → b' ∈ bills

theorem BillsRefresh.refl (bills : Table Bill.billId) : BillsRefresh bills bills where
  kept := fun b hb ↦ ⟨b, hb, rfl, rfl, rfl, fun _ ↦ rfl⟩
  paid := fun _ hb _ ↦ hb

theorem BillsRefresh.trans {bills bills' bills'' : Table Bill.billId}
    (h : BillsRefresh bills bills') (h' : BillsRefresh bills' bills'') :
    BillsRefresh bills bills'' where
  kept := by
    intro b hb
    obtain ⟨c, hc, hid, huid, hsid, hpaid⟩ := h.kept b hb
    obtain ⟨d, hd, hid', huid', hsid', hpaid'⟩ := h'.kept c hc
    refine ⟨d, hd, hid'.trans hid, huid'.trans huid, hsid'.trans hsid, fun hb ↦ ?_⟩
    have hcb : c = b := hpaid hb
    subst hcb
    exact hpaid' hb
  paid := fun b hb hpaid ↦ h.paid b (h'.paid b hb hpaid) hpaid

/-- Rewriting a bill that is not paid by one that is not paid, of the same owner and supplier
id. -/
theorem BillsRefresh.replace {bills : Table Bill.billId} {b b' : Bill} (hb : b ∈ bills)
    (hunpaid : b.status ≠ .paid) (hid : b'.billId = b.billId) (huid : b'.uid = b.uid)
    (hsid : b'.supplierBillId = b.supplierBillId) (hunpaid' : b'.status ≠ .paid) :
    BillsRefresh bills (bills.replace b') where
  kept := by
    intro c hc
    by_cases hkey : c.billId = b'.billId
    · have hcb : c = b := Table.eq_of_key_eq hc hb (hkey.trans hid)
      subst hcb
      exact ⟨b', Table.mem_replace.mpr (Or.inr ⟨rfl, c, hc, hkey⟩), hid, huid, hsid,
        fun hpaid ↦ absurd hpaid hunpaid⟩
    · exact ⟨c, Table.mem_replace.mpr (Or.inl ⟨hc, hkey⟩), rfl, rfl, rfl, fun _ ↦ rfl⟩
  paid := by
    intro c hc hpaid
    rcases Table.mem_replace.mp hc with ⟨hc, -⟩ | ⟨rfl, -⟩
    · exact hc
    · exact absurd hpaid hunpaid'

/-- Adding a bill that is not paid. -/
theorem BillsRefresh.insert {bills : Table Bill.billId} {b : Bill}
    (hfree : bills.get? b.billId = none) (hunpaid : b.status ≠ .paid) :
    BillsRefresh bills (bills.insert b) where
  kept := fun c hc ↦ ⟨c, (Table.mem_insert hfree).mpr (Or.inl hc), rfl, rfl, rfl, fun _ ↦ rfl⟩
  paid := by
    intro c hc hpaid
    rcases (Table.mem_insert hfree).mp hc with hc | rfl
    · exact hc
    · exact absurd hpaid hunpaid

/-- A database whose bills are refreshed and that is otherwise unchanged. -/
structure Refreshes (db db' : Database) : Prop where
  bills : BillsRefresh db.bills db'.bills
  others : db'.toTables = { db.toTables with bills := db'.bills }

theorem Refreshes.refl (db : Database) : Refreshes db db := ⟨BillsRefresh.refl _, rfl⟩

theorem Refreshes.trans {db db' db'' : Database} (h : Refreshes db db')
    (h' : Refreshes db' db'') : Refreshes db db'' where
  bills := h.bills.trans h'.bills
  others := by
    rw [h'.others, h.others]

namespace SearchFinesAction

/-! ### Saving charges -/

/-- `BillMapper.find_by_uid` -/
def findBillsByUid (uid : ℤ) : Action (List Bill) := billMapper.find fun b ↦ b.uid = uid

variable (action : SearchFinesAction) (documents : List Document)

/-- `_update_existing_bill` -/
def updateExistingBill (bill : Bill) (charge : Option Charge) : Action Unit := do
  match charge with
  | none =>
    if bill.status = .new then
      let _ ← billMapper.save { bill with status := .gone }
  | some charge =>
    let updatedBill ← action.chargeToBill documents charge bill.billId
    if bill.status ≠ .paid ∧ bill ≠ updatedBill then
      let _ ← billMapper.save updatedBill

/-- The first loop of `_save_charges`; it leaves the charges of no stored bill. -/
def updateExistingBills : List Bill → Dict String Charge → Action (Dict String Charge)
  | [], id2charges => pure id2charges
  | bill :: bills, id2charges => do
    action.updateExistingBill documents bill (id2charges.get? bill.supplierBillId)
    updateExistingBills bills (id2charges.pop bill.supplierBillId)

/-- The second loop of `_save_charges`; `newId` gives the identifiers that `uuid4` draws. -/
def createNewBills (newId : String → UUID) : List (String × Charge) → Action Unit
  | [] => pure ()
  | (supplierBillId, charge) :: charges => do
    let bill ← action.chargeToBill documents charge (newId supplierBillId)
    let _ ← billMapper.create bill
    createNewBills newId charges

/-- `_save_charges` -/
def saveCharges (newId : String → UUID) (charges : List Charge) : Action Unit := do
  let id2charges := Dict.ofList (charges.map fun el ↦ (el.supplierBillId, el))
  let bills ← findBillsByUid action.uid
  let id2charges ← action.updateExistingBills documents bills id2charges
  action.createNewBills documents newId id2charges.items

/-- `_complete` -/
def complete (newId : String → UUID) (charges : List Charge) : Action Unit := do
  action.saveCharges documents newId charges
  updateSyncedRevision action.uid action.revision

variable {action documents}

theorem updateExistingBill_ok {bill : Bill} {charge : Option Charge} {u : Unit}
    {db db' : Database} (hbill : bill ∈ db.bills) (huid : bill.uid = action.uid)
    (hcharge : ∀ c, charge = some c → c.supplierBillId = bill.supplierBillId)
    (h : action.updateExistingBill documents bill charge db = .ok (u, db')) :
    Refreshes db db' ∧ ∀ c ∈ db.bills, c.billId ≠ bill.billId → c ∈ db'.bills := by
  have hsaved : ∀ b' : Bill, bill.status ≠ .paid → b'.billId = bill.billId →
      b'.uid = bill.uid → b'.supplierBillId = bill.supplierBillId → b'.status ≠ .paid →
      ∀ a, billMapper.save b' db = .ok (a, db') →
      Refreshes db db' ∧ ∀ c ∈ db.bills, c.billId ≠ bill.billId → c ∈ db'.bills := by
    intro b' hunpaid hid huid' hsid hunpaid' a hsave
    obtain ⟨-, -, hdb'⟩ := Mapper.save_eq_ok.mp hsave
    have hbills : db'.bills = db.bills.replace b' := by rw [hdb']; rfl
    refine ⟨⟨hbills ▸ BillsRefresh.replace hbill hunpaid hid huid' hsid hunpaid', ?_⟩, ?_⟩
    · rw [hdb']
      rfl
    · intro c hc hne
      rw [hbills]
      exact Table.mem_replace.mpr (Or.inl ⟨hc, fun heq ↦ hne (heq.trans hid)⟩)
  have hunchanged : db' = db →
      Refreshes db db' ∧ ∀ c ∈ db.bills, c.billId ≠ bill.billId → c ∈ db'.bills := by
    rintro rfl
    exact ⟨Refreshes.refl _, fun c hc _ ↦ hc⟩
  cases charge with
  | none =>
    simp only [updateExistingBill] at h
    split_ifs at h with hnew
    · obtain ⟨a, db₁, hsave, hpure⟩ := Tx.bind_eq_ok.mp h
      obtain ⟨-, rfl⟩ := Tx.pure_eq_ok.mp hpure
      exact hsaved { bill with status := .gone } (by simp [hnew]) rfl rfl rfl (by simp) a hsave
    · exact hunchanged (Tx.pure_eq_ok.mp h).2
  | some c =>
    simp only [updateExistingBill, Tx.bind_eq_ok] at h
    obtain ⟨updatedBill, db₁, hupdated, h⟩ := h
    obtain ⟨rfl, hid, huid', hsid, hstatus⟩ := chargeToBill_ok hupdated
    split_ifs at h with hchanged
    · obtain ⟨a, db₂, hsave, hpure⟩ := Tx.bind_eq_ok.mp h
      obtain ⟨-, rfl⟩ := Tx.pure_eq_ok.mp hpure
      exact hsaved updatedBill hchanged.1 hid (huid'.trans huid.symm)
        (hsid.trans (hcharge c rfl)) (by simp [hstatus]) a hsave
    · exact hunchanged (Tx.pure_eq_ok.mp h).2

/-- The loop over the stored bills. Its invariant is that the bills still to be visited are
stored as they were read and that every charge is kept under its supplier id. -/
theorem updateExistingBills_ok {bills : List Bill} {id2charges rest : Dict String Charge}
    {db db' : Database} (hstored : ∀ b ∈ bills, b ∈ db.bills ∧ b.uid = action.uid)
    (hnodup : (bills.map Bill.billId).Nodup)
    (hcharges : ∀ p ∈ id2charges.items, p.2.supplierBillId = p.1)
    (h : action.updateExistingBills documents bills id2charges db = .ok (rest, db')) :
    Refreshes db db' := by
  induction bills generalizing id2charges db with
  | nil =>
    obtain ⟨-, rfl⟩ := Tx.pure_eq_ok.mp h
    exact Refreshes.refl _
  | cons bill bills ih =>
    rw [updateExistingBills, Tx.bind_eq_ok] at h
    obtain ⟨u, db₁, hbill, hrest⟩ := h
    obtain ⟨hmem, huid⟩ := hstored bill List.mem_cons_self
    obtain ⟨hrefresh, hothers⟩ := updateExistingBill_ok hmem huid
      (fun c hc ↦ hcharges _ (Dict.get?_eq_some_iff.mp hc)) hbill
    rw [List.map_cons, List.nodup_cons] at hnodup
    refine hrefresh.trans (ih ?_ hnodup.2 ?_ hrest)
    · intro b hb
      obtain ⟨hmemb, huidb⟩ := hstored b (List.mem_cons_of_mem _ hb)
      have hne : b.billId ≠ bill.billId := by
        intro heq
        exact hnodup.1 (heq ▸ List.mem_map_of_mem hb)
      exact ⟨hothers b hmemb hne, huidb⟩
    · exact fun p hp ↦ hcharges p (Dict.mem_pop.mp hp).1

theorem createNewBills_ok {newId : String → UUID} {charges : List (String × Charge)} {u : Unit}
    {db db' : Database}
    (h : action.createNewBills documents newId charges db = .ok (u, db')) : Refreshes db db' := by
  induction charges generalizing db with
  | nil =>
    obtain ⟨-, rfl⟩ := Tx.pure_eq_ok.mp h
    exact Refreshes.refl _
  | cons p charges ih =>
    obtain ⟨supplierBillId, charge⟩ := p
    simp only [createNewBills, Tx.bind_eq_ok, Mapper.create_eq_ok] at h
    obtain ⟨bill, db₁, hbill, created, db₂, ⟨-, hfree, hdb₂⟩, hrest⟩ := h
    obtain ⟨rfl, -, -, -, hstatus⟩ := chargeToBill_ok hbill
    have hbills : db₂.bills = db₁.bills.insert bill := by rw [hdb₂]; rfl
    have hinsert : Refreshes db₁ db₂ := by
      refine ⟨hbills ▸ BillsRefresh.insert hfree (by simp [hstatus]), ?_⟩
      rw [hdb₂]
      rfl
    exact hinsert.trans (ih hrest)

theorem saveCharges_ok {newId : String → UUID} {charges : List Charge} {u : Unit}
    {db db' : Database} (h : action.saveCharges documents newId charges db = .ok (u, db')) :
    Refreshes db db' := by
  simp only [saveCharges, findBillsByUid, Tx.bind_eq_ok, Mapper.find_eq_ok] at h
  obtain ⟨bills, db₁, ⟨rfl, rfl⟩, rest, db₂, hexisting, hnew⟩ := h
  refine (updateExistingBills_ok ?_ ?_ ?_ hexisting).trans (createNewBills_ok hnew)
  · intro b hb
    obtain ⟨hmem, huid⟩ := List.mem_filter.mp hb
    exact ⟨hmem, by simpa using huid⟩
  · exact db₁.bills.nodup.sublist (List.filter_sublist.map _)
  · intro p hp
    obtain ⟨c, -, rfl⟩ := List.mem_map.mp (Dict.mem_of_mem_ofList hp)
    rfl

theorem complete_ok {newId : String → UUID} {charges : List Charge} {u : Unit}
    {db db' : Database} (h : action.complete documents newId charges db = .ok (u, db')) :
    ∃ user, db.users.get? action.uid = some user ∧
      user.syncingRevision = some action.revision ∧ BillsRefresh db.bills db'.bills ∧
      db'.toTables =
        { db.toTables with
          bills := db'.bills
          users := db.users.replace
            { user with syncingRevision := none, syncedRevision := action.revision } } := by
  rw [complete, Tx.bind_eq_ok] at h
  obtain ⟨v, db₁, hsave, hsynced⟩ := h
  have hrefresh := saveCharges_ok hsave
  obtain ⟨user, huser, hsyncing, hdb'⟩ := updateSyncedRevision_ok hsynced
  have husers : db₁.users = db.users := by rw [hrefresh.others]
  have hbills : db'.bills = db₁.bills := by rw [hdb']
  rw [husers] at huser hdb'
  refine ⟨user, huser, hsyncing, hbills ▸ hrefresh.bills, ?_⟩
  rw [hdb', hrefresh.others]

/-! ### Acquiring the user and rescheduling -/

/-- `_retry`: the rescheduled search has the same revision and no flag. -/
def retry (action : SearchFinesAction) : Action Unit :=
  runAsync ⟨action.uid, action.revision, false⟩

/-- `_acquire_user` -/
def acquireUser (action : SearchFinesAction) : Action (Option User) := do
  let user ← Tx.mapError (fun e ↦ if e = .doesNotExist .user then .userNotFound else e)
    (userMapper.get action.uid)
  if action.revision ≠ user.revision then
    if user.syncingRevision = some action.revision then
      let _ ← userMapper.save { user with syncingRevision := none }
    return none
  if user.syncingRevision ≠ none ∧ user.syncingRevision ≠ some action.revision then
    action.retry
    return none
  let user ← userMapper.save { user with syncingRevision := some action.revision }
  return some user

/-- The three outcomes of `_acquire_user`: the search is obsolete, it waits for another one, or
it holds the user. -/
theorem acquireUser_ok {action : SearchFinesAction} {acquired : Option User}
    {db db' : Database} (h : action.acquireUser db = .ok (acquired, db')) :
    ∃ user, db.users.get? action.uid = some user ∧
      ((acquired = none ∧ action.revision ≠ user.revision ∧ db'.toTables =
          { db.toTables with
            users := if user.syncingRevision = some action.revision then
              db.users.replace { user with syncingRevision := none } else db.users }) ∨
        (acquired = none ∧ action.revision = user.revision ∧ user.syncingRevision ≠ none ∧
          user.syncingRevision ≠ some action.revision ∧ db'.toTables =
          { db.toTables with
            tasks := db.tasks.append
              (fun taskId ↦ ⟨taskId, ⟨action.uid, action.revision, false⟩, .pending⟩)
              fun _ ↦ rfl }) ∨
        (acquired = some { user with syncingRevision := some action.revision } ∧
          action.revision = user.revision ∧
          (user.syncingRevision = none ∨ user.syncingRevision = some action.revision) ∧
          db'.toTables =
          { db.toTables with
            users := db.users.replace
              { user with syncingRevision := some action.revision } })) := by
  simp only [acquireUser, Tx.bind_eq_ok, Tx.mapError_eq_ok, Mapper.get_eq_ok] at h
  obtain ⟨user, db₁, ⟨huser, rfl⟩, h⟩ := h
  refine ⟨user, huser, ?_⟩
  split_ifs at h with hrevision hsyncing hwaiting
  · simp only [Tx.bind_eq_ok, Mapper.save_eq_ok, Tx.pure_eq_ok] at h
    obtain ⟨saved, db₂, ⟨-, -, hdb₂⟩, rfl, rfl⟩ := h
    refine Or.inl ⟨rfl, hrevision, ?_⟩
    rw [if_pos hsyncing, hdb₂]
    rfl
  · obtain ⟨rfl, rfl⟩ := Tx.pure_eq_ok.mp h
    refine Or.inl ⟨rfl, hrevision, ?_⟩
    rw [if_neg hsyncing]
  · simp only [retry, Tx.bind_eq_ok, runAsync_eq_ok, Tx.pure_eq_ok] at h
    obtain ⟨u, db₂, hdb₂, rfl, rfl⟩ := h
    exact Or.inr (Or.inl ⟨rfl, not_not.mp hrevision, hwaiting.1, hwaiting.2, hdb₂⟩)
  · simp only [Tx.bind_eq_ok, Mapper.save_eq_ok, Tx.pure_eq_ok] at h
    obtain ⟨saved, db₂, ⟨rfl, -, hdb₂⟩, rfl, rfl⟩ := h
    refine Or.inr (Or.inr ⟨rfl, not_not.mp hrevision, ?_, hdb₂⟩)
    by_cases hnone : user.syncingRevision = none
    · exact Or.inl hnone
    · exact Or.inr (not_not.mp fun hne ↦ hwaiting ⟨hnone, hne⟩)

end SearchFinesAction

end YandexPay.BillPayments
