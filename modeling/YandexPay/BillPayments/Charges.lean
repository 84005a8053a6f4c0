import YandexPay.BillPayments.Search

/-!
# What a search leaves of the bills

`SearchFinesAction._save_charges` matches the stored bills of a user with the charges of an answer.
`Updated` says what becomes of one stored bill, `Applied` what becomes of all of them, and
`saveCharges_applied` that every successful run leaves the bills so. A run on bills that are as the
charges want them changes nothing (`saveCharges_of_settled`), so a second run changes nothing.

That a run succeeds (`saveCharges_total`) needs that the user and the documents of the charges are
stored and that no drawn identifier is taken. The invariant of both loops is that every row of the
bills keeps its identifier, its owner and its supplier id, so the constraints of the schema hold.
-/

set_option autoImplicit false
set_option relaxedAutoImplicit false

namespace YandexPay.BillPayments.SearchFinesAction

/-! ### From a charge to a bill -/

/-- The bill that a charge gives under an identifier, in every database. -/
def Makes (action : SearchFinesAction) (documents : List Document) (charge : Charge)
    (billId : UUID) (bill : Bill) : Prop :=
  ∀ db, action.chargeToBill documents charge billId db = .ok (bill, db)

/-- Whether a charge gives a bill, and which one, does not depend on the database. -/
theorem chargeToBill_const (action : SearchFinesAction) (documents : List Document)
    (charge : Charge) (billId : UUID) : ∃ result : Except ActionError Bill, ∀ db,
      action.chargeToBill documents charge billId db = result.map fun bill ↦ (bill, db) := by
  have hthrow : ∀ e : ActionError, ∃ result : Except ActionError Bill, ∀ db,
      (throw e : Action Bill) db = result.map fun bill ↦ (bill, db) := fun e ↦
    ⟨.error e, fun _ ↦ rfl⟩
  have hpure : ∀ bill : Bill, ∃ result : Except ActionError Bill, ∀ db,
      (pure bill : Action Bill) db = result.map fun bill ↦ (bill, db) := fun bill ↦
    ⟨.ok bill, fun _ ↦ rfl⟩
  unfold SearchFinesAction.chargeToBill findDocument
  generalize List.find? _ documents = found
  rcases found with _ | document
  · exact hthrow .documentNotFound
  obtain ⟨payerDoc, supplierBillId, department, chargeData⟩ := charge
  rcases department with _ | department
  · exact hthrow .assertionFailed
  rcases chargeData with _ | data
  · exact hthrow .assertionFailed
  obtain ⟨billDate, amountToPay, purpose, kbk, oktmo, inn, kpp, bik, accountNumber, payeeName,
    divId, amount, payerName, treasureBranch, additionalData, paymentData⟩ := data
  rcases amount with _ | amount
  · exact hthrow .assertionFailed
  rcases amountToPay with _ | amountToPay
  · exact hthrow .assertionFailed
  simp only [pure_bind, BillPayments.chargeToBill]
  split_ifs
  · exact hthrow .assertionFailed
  · exact hpure _

variable {action : SearchFinesAction} {documents : List Document}

theorem makes_of_ok {charge : Charge} {billId : UUID} {bill : Bill} {db db' : Database}
    (h : action.chargeToBill documents charge billId db = .ok (bill, db')) :
    db' = db ∧ action.Makes documents charge billId bill := by
  obtain ⟨result, hresult⟩ := chargeToBill_const action documents charge billId
  rw [hresult] at h
  cases result with
  | error e => cases h
  | ok made =>
    cases h
    exact ⟨rfl, hresult⟩

theorem Makes.eq {charge : Charge} {billId : UUID} {bill bill' : Bill}
    (h : action.Makes documents charge billId bill)
    (h' : action.Makes documents charge billId bill') : bill = bill' :=
  congrArg Prod.fst (Except.ok.inj ((h .empty).symm.trans (h' .empty)))

/-- A bill made from a charge belongs to the user, keeps both identifiers and is new. -/
theorem Makes.fields {charge : Charge} {billId : UUID} {bill : Bill}
    (h : action.Makes documents charge billId bill) :
    bill.billId = billId ∧ bill.uid = action.uid ∧
      bill.supplierBillId = charge.supplierBillId ∧ bill.status = .new :=
  (chargeToBill_ok (h .empty)).2

/-! ### One stored bill -/

/-- What becomes of a stored bill that has a charge, or none. -/
def Updated (action : SearchFinesAction) (documents : List Document) (charge : Option Charge)
    (bill bill' : Bill) : Prop :=
  match charge with
  | none => bill' = if bill.status = .new then { bill with status := .gone } else bill
  | some charge => ∃ made, action.Makes documents charge bill.billId made ∧
      bill' = if bill.status = .paid then bill else made

/-- The bill is as its charge wants it. -/
def Settled (action : SearchFinesAction) (documents : List Document) (charge : Option Charge)
    (bill : Bill) : Prop := action.Updated documents charge bill bill

theorem Updated.keeps {charge : Option Charge} {bill bill' : Bill} (huid : bill.uid = action.uid)
    (hcharge : ∀ c, charge = some c → c.supplierBillId = bill.supplierBillId)
    (h : action.Updated documents charge bill bill') :
    bill'.billId = bill.billId ∧ bill'.uid = bill.uid ∧
      bill'.supplierBillId = bill.supplierBillId := by
  cases charge with
  | none =>
    simp only [Updated] at h
    split_ifs at h
    · rw [h]
      exact ⟨rfl, rfl, rfl⟩
    · rw [h]
      exact ⟨rfl, rfl, rfl⟩
  | some c =>
    obtain ⟨made, hmade, hbill'⟩ := h
    split_ifs at hbill'
    · rw [hbill']
      exact ⟨rfl, rfl, rfl⟩
    · obtain ⟨hid, huid', hsid, -⟩ := hmade.fields
      rw [hbill']
      exact ⟨hid, huid'.trans huid.symm, hsid.trans (hcharge c rfl)⟩

/-- Once updated, a bill is settled. -/
theorem Updated.settled {charge : Option Charge} {bill bill' : Bill}
    (h : action.Updated documents charge bill bill') : action.Settled documents charge bill' := by
  cases charge with
  | none =>
    simp only [Updated] at h
    simp only [Settled, Updated]
    split_ifs at h with hnew
    · rw [h, if_neg (by simp)]
    · rw [h, if_neg hnew]
  | some c =>
    obtain ⟨made, hmade, hbill'⟩ := h
    split_ifs at hbill' with hpaid
    · rw [hbill']
      exact ⟨made, hmade, (if_pos hpaid).symm⟩
    · obtain ⟨hid, -, -, -⟩ := hmade.fields
      refine ⟨made, ?_, ?_⟩
      · rw [hbill', hid]
        exact hmade
      · rw [hbill', ite_self]

theorem updateExistingBill_updated {bill : Bill} {charge : Option Charge} {u : Unit}
    {db db' : Database} (hbill : bill ∈ db.bills)
    (h : action.updateExistingBill documents bill charge db = .ok (u, db')) :
    ∃ bill', action.Updated documents charge bill bill' ∧
      db'.toTables = { db.toTables with bills := db.bills.replace bill' } := by
  have hunchanged : db' = db →
      db'.toTables = { db.toTables with bills := db.bills.replace bill } := by
    rintro rfl
    rw [Table.replace_self hbill]
  cases charge with
  | none =>
    simp only [updateExistingBill] at h
    refine ⟨_, rfl, ?_⟩
    split_ifs at h ⊢ with hnew
    · simp only [Tx.bind_eq_ok, Mapper.save_eq_ok, Tx.pure_eq_ok] at h
      obtain ⟨saved, db₁, ⟨-, -, hdb₁⟩, -, rfl⟩ := h
      exact hdb₁
    · exact hunchanged (Tx.pure_eq_ok.mp h).2
  | some c =>
    simp only [updateExistingBill, Tx.bind_eq_ok] at h
    obtain ⟨made, db₁, hmade, h⟩ := h
    obtain ⟨rfl, hmakes⟩ := makes_of_ok hmade
    refine ⟨_, ⟨made, hmakes, rfl⟩, ?_⟩
    split_ifs at h with hchanged
    · simp only [Tx.bind_eq_ok, Mapper.save_eq_ok, Tx.pure_eq_ok] at h
      obtain ⟨saved, db₂, ⟨-, -, hdb₂⟩, -, rfl⟩ := h
      rw [if_neg hchanged.1]
      exact hdb₂
    · have hsame : (if bill.status = .paid then bill else made) = bill := by
        split_ifs with hpaid
        · rfl
        · exact (not_not.mp fun hne ↦ hchanged ⟨hpaid, hne⟩).symm
      rw [hsame]
      exact hunchanged (Tx.pure_eq_ok.mp h).2

/-! ### The loops -/

/-- A visited bill pops its own charge, not those of the bills still to be visited. -/
theorem get?_pop_of_mem {id2charges : Dict String Charge} {bill b : Bill} {bills : List Bill}
    (hbill : bill.supplierBillId ∉ bills.map Bill.supplierBillId) (hb : b ∈ bills) :
    (id2charges.pop bill.supplierBillId).get? b.supplierBillId =
      id2charges.get? b.supplierBillId := by
  have hother : b.supplierBillId ≠ bill.supplierBillId := by
    intro heq
    exact hbill (heq ▸ List.mem_map_of_mem hb)
  rw [Dict.get?_pop, if_neg hother]

/-- The charges that are left after a bill and after the bills that follow it. -/
theorem ite_get?_pop (id2charges : Dict String Charge) (bill : Bill) (bills : List Bill)
    (k : String) :
    (if k ∈ bills.map Bill.supplierBillId then none
      else (id2charges.pop bill.supplierBillId).get? k) =
    if k ∈ (bill :: bills).map Bill.supplierBillId then none else id2charges.get? k := by
  rw [Dict.get?_pop, List.map_cons]
  by_cases hk : k = bill.supplierBillId
  · rw [if_pos (List.mem_cons.mpr (Or.inl hk)), if_pos hk, ite_self]
  · simp only [List.mem_cons, hk, false_or, if_false]

/-- The visited bills are updated by their charges, the others stay. -/
structure AllUpdated (action : SearchFinesAction) (documents : List Document)
    (charges : String → Option Charge) (visited : List Bill) (db db' : Database) : Prop where
  updated : ∀ b ∈ visited, ∃ b' ∈ db'.bills,
    action.Updated documents (charges b.supplierBillId) b b'
  kept : ∀ b ∈ db.bills, b ∉ visited → b ∈ db'.bills
  source : ∀ b' ∈ db'.bills, (b' ∈ db.bills ∧ b' ∉ visited) ∨
    ∃ b ∈ visited, action.Updated documents (charges b.supplierBillId) b b'
  others : db'.toTables = { db.toTables with bills := db'.bills }

theorem updateExistingBills_allUpdated {bills : List Bill} {id2charges rest : Dict String Charge}
    {db db' : Database} (hstored : ∀ b ∈ bills, b ∈ db.bills ∧ b.uid = action.uid)
    (hids : (bills.map Bill.billId).Nodup) (hsids : (bills.map Bill.supplierBillId).Nodup)
    (hcharges : ∀ p ∈ id2charges.items, p.2.supplierBillId = p.1)
    (h : action.updateExistingBills documents bills id2charges db = .ok (rest, db')) :
    AllUpdated action documents id2charges.get? bills db db' ∧
      ∀ k, rest.get? k = if k ∈ bills.map Bill.supplierBillId then none else id2charges.get? k := by
  induction bills generalizing id2charges db with
  | nil =>
    obtain ⟨rfl, rfl⟩ := Tx.pure_eq_ok.mp h
    exact ⟨⟨fun b hb ↦ absurd hb List.not_mem_nil, fun b hb _ ↦ hb,
      fun b hb ↦ Or.inl ⟨hb, List.not_mem_nil⟩, rfl⟩, fun k ↦ rfl⟩
  | cons bill bills ih =>
    rw [updateExistingBills, Tx.bind_eq_ok] at h
    obtain ⟨u, db₁, hstep, hloop⟩ := h
    obtain ⟨hmem, huid⟩ := hstored bill List.mem_cons_self
    obtain ⟨bill', hupdated, hdb₁⟩ := updateExistingBill_updated hmem hstep
    obtain ⟨hid, -, -⟩ := hupdated.keeps huid fun c hc ↦
      hcharges _ (Dict.get?_eq_some_iff.mp hc)
    have hbills : db₁.bills = db.bills.replace bill' := by rw [hdb₁]
    rw [List.map_cons, List.nodup_cons] at hids hsids
    have hne : ∀ b ∈ bills, b.billId ≠ bill'.billId := fun b hb heq ↦
      hids.1 (heq.trans hid ▸ List.mem_map_of_mem hb)
    obtain ⟨hall, hrest⟩ := ih (fun b hb ↦ by
        obtain ⟨hmemb, huidb⟩ := hstored b (List.mem_cons_of_mem _ hb)
        exact ⟨hbills ▸ Table.mem_replace.mpr (Or.inl ⟨hmemb, hne b hb⟩), huidb⟩) hids.2 hsids.2
      (fun p hp ↦ hcharges p (Dict.mem_pop.mp hp).1) hloop
    refine ⟨⟨?_, ?_, ?_, ?_⟩, ?_⟩
    · intro b hb
      rcases List.mem_cons.mp hb with rfl | hb
      · refine ⟨bill', hall.kept bill' ?_ fun hb ↦ hne bill' hb rfl, hupdated⟩
        rw [hbills, Table.mem_replace]
        exact Or.inr ⟨rfl, b, hmem, hid.symm⟩
      · rw [← get?_pop_of_mem hsids.1 hb]
        exact hall.updated b hb
    · intro b hb hvisited
      rw [List.mem_cons, not_or] at hvisited
      refine hall.kept b ?_ hvisited.2
      rw [hbills, Table.mem_replace]
      exact Or.inl ⟨hb, fun heq ↦ hvisited.1 (Table.eq_of_key_eq hb hmem (heq.trans hid))⟩
    · intro b' hb'
      rcases hall.source b' hb' with ⟨hb', hvisited⟩ | ⟨b, hb, hb'⟩
      · rw [hbills, Table.mem_replace] at hb'
        rcases hb' with ⟨hb', hkey⟩ | ⟨rfl, -⟩
        · refine Or.inl ⟨hb', fun h ↦ ?_⟩
          rcases List.mem_cons.mp h with rfl | h
          · exact hkey hid.symm
          · exact hvisited h
        · exact Or.inr ⟨bill, List.mem_cons_self, hupdated⟩
      · rw [get?_pop_of_mem hsids.1 hb] at hb'
        exact Or.inr ⟨b, List.mem_cons_of_mem _ hb, hb'⟩
    · rw [hall.others, hdb₁]
    · intro k
      rw [hrest, ite_get?_pop]

/-- Bills are added for the charges, all others stay. -/
structure AllCreated (action : SearchFinesAction) (documents : List Document)
    (newId : String → UUID) (charges : List (String × Charge)) (db db' : Database) : Prop where
  created : ∀ p ∈ charges, ∃ b' ∈ db'.bills, action.Makes documents p.2 (newId p.1) b'
  kept : ∀ b ∈ db.bills, b ∈ db'.bills
  source : ∀ b' ∈ db'.bills, b' ∈ db.bills ∨
    ∃ p ∈ charges, action.Makes documents p.2 (newId p.1) b'
  others : db'.toTables = { db.toTables with bills := db'.bills }

theorem createNewBills_allCreated {newId : String → UUID} {charges : List (String × Charge)}
    {u : Unit} {db db' : Database}
    (h : action.createNewBills documents newId charges db = .ok (u, db')) :
    AllCreated action documents newId charges db db' := by
  induction charges generalizing db with
  | nil =>
    obtain ⟨-, rfl⟩ := Tx.pure_eq_ok.mp h
    exact ⟨fun p hp ↦ absurd hp List.not_mem_nil, fun b hb ↦ hb, fun b hb ↦ Or.inl hb, rfl⟩
  | cons p charges ih =>
    obtain ⟨supplierBillId, charge⟩ := p
    simp only [createNewBills, Tx.bind_eq_ok, Mapper.create_eq_ok] at h
    obtain ⟨made, db₁, hmade, created, db₂, ⟨-, hfree, hdb₂⟩, hloop⟩ := h
    obtain ⟨rfl, hmakes⟩ := makes_of_ok hmade
    have hbills : db₂.bills = db₁.bills.insert made := by rw [hdb₂]; rfl
    have hmem : ∀ b, b ∈ db₂.bills ↔ b ∈ db₁.bills ∨ b = made := by
      intro b
      rw [hbills]
      exact Table.mem_insert hfree
    have hall := ih hloop
    refine ⟨List.forall_mem_cons.mpr ⟨?_, hall.created⟩, ?_, ?_, ?_⟩
    · exact ⟨made, hall.kept made ((hmem made).mpr (Or.inr rfl)), hmakes⟩
    · exact fun b hb ↦ hall.kept b ((hmem b).mpr (Or.inl hb))
    · intro b' hb'
      rcases hall.source b' hb' with hb' | ⟨p, hp, hb'⟩
      · rcases (hmem b').mp hb' with hb' | rfl
        · exact Or.inl hb'
        · exact Or.inr ⟨(supplierBillId, charge), List.mem_cons_self, hmakes⟩
      · exact Or.inr ⟨p, List.mem_cons_of_mem _ hp, hb'⟩
    · rw [hall.others, hdb₂]
      rfl

/-! ### What a run leaves -/

/-- The charge of a supplier id that counts: the last one. -/
def lastCharge (charges : List Charge) (supplierBillId : String) : Option Charge :=
  charges.reverse.find? fun c ↦ c.supplierBillId = supplierBillId

theorem get?_id2charges (charges : List Charge) :
    (Dict.ofList (charges.map fun el ↦ (el.supplierBillId, el))).get? = lastCharge charges := by
  funext supplierBillId
  rw [Dict.get?_ofList, ← List.map_reverse, lastCharge]
  induction charges.reverse with
  | nil => rfl
  | cons c rest ih =>
    rw [List.map_cons, List.lookup_cons, List.find?_cons]
    by_cases h : supplierBillId = c.supplierBillId
    · rw [beq_iff_eq.mpr h, decide_eq_true h.symm]
    · rw [beq_false_of_ne h, decide_eq_false (Ne.symm h)]
      exact ih

theorem supplierBillId_of_lastCharge {charges : List Charge} {supplierBillId : String} {c : Charge}
    (h : lastCharge charges supplierBillId = some c) : c.supplierBillId = supplierBillId := by
  simpa using List.find?_some h

theorem mem_of_lastCharge {charges : List Charge} {supplierBillId : String} {c : Charge}
    (h : lastCharge charges supplierBillId = some c) : c ∈ charges :=
  List.mem_reverse.mp (List.mem_of_find?_eq_some h)

theorem exists_lastCharge {charges : List Charge} {c : Charge} (hc : c ∈ charges) :
    ∃ last, lastCharge charges c.supplierBillId = some last := by
  rw [← Option.isSome_iff_exists, lastCharge, List.find?_isSome]
  exact ⟨c, List.mem_reverse.mpr hc, decide_eq_true rfl⟩

/-- What becomes of the bills when the charges of a user are saved. -/
structure Applied (action : SearchFinesAction) (documents : List Document) (newId : String → UUID)
    (charges : List Charge) (db db' : Database) : Prop where
  paid : ∀ b ∈ db.bills, b.status = .paid → b ∈ db'.bills
  charged : ∀ b ∈ db.bills, b.uid = action.uid → b.status ≠ .paid →
    ∀ c, lastCharge charges b.supplierBillId = some c →
      ∃ b' ∈ db'.bills, b'.billId = b.billId ∧ b'.status = .new ∧
        action.Makes documents c b.billId b'
  gone : ∀ b ∈ db.bills, b.uid = action.uid → b.status = .new →
    lastCharge charges b.supplierBillId = none → { b with status := .gone } ∈ db'.bills
  unchanged : ∀ b ∈ db.bills, b.status ≠ .new → lastCharge charges b.supplierBillId = none →
    b ∈ db'.bills
  foreign : ∀ b ∈ db.bills, b.uid ≠ action.uid → b ∈ db'.bills
  one : ∀ c ∈ charges, ∃! b', b' ∈ db'.bills ∧ b'.uid = action.uid ∧
    b'.supplierBillId = c.supplierBillId
  remains : ∀ b ∈ db.bills, ∃ b' ∈ db'.bills, b'.billId = b.billId ∧ b'.uid = b.uid ∧
    b'.supplierBillId = b.supplierBillId
  source : ∀ b' ∈ db'.bills, (∃ b ∈ db.bills, b.billId = b'.billId) ∨
    ∃ c, lastCharge charges b'.supplierBillId = some c ∧
      action.Makes documents c (newId b'.supplierBillId) b' ∧
      ∀ b ∈ db.bills, b.uid = action.uid → b.supplierBillId ≠ b'.supplierBillId
  others : db'.toTables = { db.toTables with bills := db'.bills }

/-- The bills of the user, in the order of the table. -/
def billsOf (action : SearchFinesAction) (db : Database) : List Bill :=
  db.bills.rows.filter fun b ↦ b.uid = action.uid

theorem mem_billsOf {db : Database} {b : Bill} :
    b ∈ action.billsOf db ↔ b ∈ db.bills ∧ b.uid = action.uid := by
  rw [billsOf, List.mem_filter, decide_eq_true_eq, Table.mem_def]

theorem nodup_billsOf (db : Database) : ((action.billsOf db).map Bill.billId).Nodup :=
  db.bills.nodup.sublist (List.filter_sublist.map _)

/-- A user has one bill of a supplier id. -/
theorem nodup_supplierBillIds (db : Database) :
    ((action.billsOf db).map Bill.supplierBillId).Nodup := by
  refine List.Nodup.map_on ?_ (List.Nodup.of_map Bill.billId (nodup_billsOf db))
  intro b hb c hc hsid
  obtain ⟨hb, hbuid⟩ := mem_billsOf.mp hb
  obtain ⟨hc, hcuid⟩ := mem_billsOf.mp hc
  exact Table.eq_of_key_eq hb hc
    (db.unique.bills_uid_supplierBillId b hb c hc (hbuid.trans hcuid.symm) hsid)

/-- The two loops of a run. -/
theorem saveCharges_loops {newId : String → UUID} {charges : List Charge} {u : Unit}
    {db db' : Database} (h : action.saveCharges documents newId charges db = .ok (u, db')) :
    ∃ (rest : Dict String Charge) (db₁ : Database),
      AllUpdated action documents (lastCharge charges) (action.billsOf db) db db₁ ∧
      AllCreated action documents newId rest.items db₁ db' ∧
      ∀ k, rest.get? k = if k ∈ (action.billsOf db).map Bill.supplierBillId then none
        else lastCharge charges k := by
  simp only [saveCharges, findBillsByUid, Tx.bind_eq_ok, Mapper.find_eq_ok] at h
  obtain ⟨bills, db₀, ⟨rfl, rfl⟩, rest, db₁, hexisting, hnew⟩ := h
  obtain ⟨hall, hrest⟩ := updateExistingBills_allUpdated (fun b hb ↦ mem_billsOf.mp hb)
    (nodup_billsOf db₀) (nodup_supplierBillIds db₀) (fun p hp ↦ by
      obtain ⟨c, -, rfl⟩ := List.mem_map.mp (Dict.mem_of_mem_ofList hp)
      rfl) hexisting
  rw [get?_id2charges] at hall hrest
  exact ⟨rest, db₁, hall, createNewBills_allCreated hnew, hrest⟩

/-- A charge of the rest of the dictionary is one whose supplier id no stored bill of the user
has. -/
theorem mem_rest_iff {charges : List Charge} {rest : Dict String Charge} {db : Database}
    (hrest : ∀ k, rest.get? k = if k ∈ (action.billsOf db).map Bill.supplierBillId then none
      else lastCharge charges k) {p : String × Charge} :
    p ∈ rest.items ↔ lastCharge charges p.1 = some p.2 ∧
      ∀ b ∈ db.bills, b.uid = action.uid → b.supplierBillId ≠ p.1 := by
  rw [← Dict.get?_eq_some_iff, hrest]
  have hids : p.1 ∈ (action.billsOf db).map Bill.supplierBillId ↔
      ∃ b ∈ db.bills, b.uid = action.uid ∧ b.supplierBillId = p.1 := by
    rw [List.mem_map]
    exact exists_congr fun b ↦ by rw [mem_billsOf, and_assoc]
  split_ifs with hstored
  · obtain ⟨b, hb, huid, hsid⟩ := hids.mp hstored
    simp only [false_iff, not_and]
    exact fun _ h ↦ h b hb huid hsid
  · rw [and_iff_left]
    exact fun b hb huid hsid ↦ hstored (hids.mpr ⟨b, hb, huid, hsid⟩)

theorem saveCharges_applied {newId : String → UUID} {charges : List Charge} {u : Unit}
    {db db' : Database} (h : action.saveCharges documents newId charges db = .ok (u, db')) :
    Applied action documents newId charges db db' := by
  obtain ⟨rest, db₁, hall, hnew, hrest⟩ := saveCharges_loops h
  have hforeign : ∀ b ∈ db.bills, b.uid ≠ action.uid → b ∈ db'.bills := fun b hb huid ↦
    hnew.kept b (hall.kept b hb fun hvisited ↦ huid (mem_billsOf.mp hvisited).2)
  have hupdated : ∀ b ∈ db.bills, b.uid = action.uid → ∃ b' ∈ db'.bills,
      action.Updated documents (lastCharge charges b.supplierBillId) b b' := by
    intro b hb huid
    obtain ⟨b', hb', hupdated⟩ := hall.updated b (mem_billsOf.mpr ⟨hb, huid⟩)
    exact ⟨b', hnew.kept b' hb', hupdated⟩
  have hremains : ∀ b ∈ db.bills, ∃ b' ∈ db'.bills, b'.billId = b.billId ∧ b'.uid = b.uid ∧
      b'.supplierBillId = b.supplierBillId := by
    intro b hb
    by_cases huid : b.uid = action.uid
    · obtain ⟨b', hb', hupdated⟩ := hupdated b hb huid
      exact ⟨b', hb', hupdated.keeps huid fun c hc ↦ supplierBillId_of_lastCharge hc⟩
    · exact ⟨b, hforeign b hb huid, rfl, rfl, rfl⟩
  refine ⟨?_, ?_, ?_, ?_, hforeign, ?_, hremains, ?_, ?_⟩
  · intro b hb hpaid
    by_cases huid : b.uid = action.uid
    · obtain ⟨b', hb', hupdated⟩ := hupdated b hb huid
      cases hcharge : lastCharge charges b.supplierBillId with
      | none =>
        rw [hcharge, Updated, if_neg (by simp [hpaid])] at hupdated
        exact hupdated ▸ hb'
      | some c =>
        rw [hcharge] at hupdated
        obtain ⟨made, -, hmade⟩ := hupdated
        rw [if_pos hpaid] at hmade
        exact hmade ▸ hb'
    · exact hforeign b hb huid
  · intro b hb huid hunpaid c hc
    obtain ⟨b', hb', hupdated⟩ := hupdated b hb huid
    rw [hc] at hupdated
    obtain ⟨made, hmakes, hmade⟩ := hupdated
    rw [if_neg hunpaid] at hmade
    subst hmade
    exact ⟨b', hb', hmakes.fields.1, hmakes.fields.2.2.2, hmakes⟩
  · intro b hb huid hstatus hnone
    obtain ⟨b', hb', hupdated⟩ := hupdated b hb huid
    rw [hnone, Updated, if_pos hstatus] at hupdated
    exact hupdated ▸ hb'
  · intro b hb hstatus hnone
    by_cases huid : b.uid = action.uid
    · obtain ⟨b', hb', hupdated⟩ := hupdated b hb huid
      rw [hnone, Updated, if_neg hstatus] at hupdated
      exact hupdated ▸ hb'
    · exact hforeign b hb huid
  · intro c hc
    have hexists : ∃ b' ∈ db'.bills, b'.uid = action.uid ∧
        b'.supplierBillId = c.supplierBillId := by
      by_cases hstored : ∃ b ∈ db.bills, b.uid = action.uid ∧ b.supplierBillId = c.supplierBillId
      · obtain ⟨b, hb, huid, hsid⟩ := hstored
        obtain ⟨b', hb', -, huid', hsid'⟩ := hremains b hb
        exact ⟨b', hb', huid'.trans huid, hsid'.trans hsid⟩
      · obtain ⟨last, hlast⟩ := exists_lastCharge hc
        have hmem : (c.supplierBillId, last) ∈ rest.items :=
          (mem_rest_iff hrest).mpr ⟨hlast, fun b hb huid hsid ↦ hstored ⟨b, hb, huid, hsid⟩⟩
        obtain ⟨b', hb', hmakes⟩ := hnew.created _ hmem
        obtain ⟨-, huid, hsid, -⟩ := hmakes.fields
        exact ⟨b', hb', huid, hsid.trans (supplierBillId_of_lastCharge hlast)⟩
    obtain ⟨b', hb', huid, hsid⟩ := hexists
    refine ⟨b', ⟨hb', huid, hsid⟩, ?_⟩
    rintro other ⟨hother, huid', hsid'⟩
    exact Table.eq_of_key_eq hother hb' (db'.unique.bills_uid_supplierBillId other hother b' hb'
      (huid'.trans huid.symm) (hsid'.trans hsid.symm))
  · intro b' hb'
    rcases hnew.source b' hb' with hb' | ⟨p, hp, hmakes⟩
    · left
      rcases hall.source b' hb' with ⟨hb', -⟩ | ⟨b, hb, hupdated⟩
      · exact ⟨b', hb', rfl⟩
      · obtain ⟨hb, huid⟩ := mem_billsOf.mp hb
        exact ⟨b, hb, (hupdated.keeps huid fun c hc ↦ supplierBillId_of_lastCharge hc).1.symm⟩
    · right
      obtain ⟨hlast, hnone⟩ := (mem_rest_iff hrest).mp hp
      have hsid : b'.supplierBillId = p.1 :=
        hmakes.fields.2.2.1.trans (supplierBillId_of_lastCharge hlast)
      rw [hsid]
      exact ⟨p.2, hlast, hmakes, hnone⟩
  · rw [hnew.others, hall.others]

/-- After a run every bill of the user is settled. -/
theorem settled_of_saveCharges {newId : String → UUID} {charges : List Charge} {u : Unit}
    {db db' : Database} (h : action.saveCharges documents newId charges db = .ok (u, db')) :
    ∀ b' ∈ db'.bills, b'.uid = action.uid →
      action.Settled documents (lastCharge charges b'.supplierBillId) b' := by
  obtain ⟨rest, db₁, hall, hnew, hrest⟩ := saveCharges_loops h
  intro b' hb' huid'
  rcases hnew.source b' hb' with hb' | ⟨p, hp, hmakes⟩
  · rcases hall.source b' hb' with ⟨hb', hvisited⟩ | ⟨b, hb, hupdated⟩
    · exact absurd (mem_billsOf.mpr ⟨hb', huid'⟩) hvisited
    · obtain ⟨-, -, hsid⟩ := hupdated.keeps (mem_billsOf.mp hb).2 fun c hc ↦
        supplierBillId_of_lastCharge hc
      rw [hsid]
      exact hupdated.settled
  · obtain ⟨hlast, -⟩ := (mem_rest_iff hrest).mp hp
    obtain ⟨hid, -, hsid, -⟩ := hmakes.fields
    rw [hsid.trans (supplierBillId_of_lastCharge hlast), hlast]
    refine ⟨b', ?_, (ite_self b').symm⟩
    rw [hid]
    exact hmakes

/-! ### A second run -/

theorem updateExistingBill_of_settled {bill : Bill} {charge : Option Charge} {db : Database}
    (h : action.Settled documents charge bill) :
    action.updateExistingBill documents bill charge db = .ok ((), db) := by
  cases charge with
  | none =>
    have hstatus : bill.status ≠ .new := by
      intro hnew
      rw [Settled, Updated, if_pos hnew] at h
      rw [h] at hnew
      cases hnew
    simp only [updateExistingBill]
    rw [if_neg hstatus]
    rfl
  | some c =>
    obtain ⟨made, hmakes, hmade⟩ := h
    have hsame : ¬(bill.status ≠ .paid ∧ bill ≠ made) := by
      rintro ⟨hunpaid, hne⟩
      rw [if_neg hunpaid] at hmade
      exact hne hmade
    simp only [updateExistingBill]
    rw [Tx.bind_of_ok (hmakes db), if_neg hsame]
    rfl

theorem updateExistingBills_of_settled {bills : List Bill} {id2charges : Dict String Charge}
    {db : Database} (hsids : (bills.map Bill.supplierBillId).Nodup)
    (hsettled : ∀ b ∈ bills, action.Settled documents (id2charges.get? b.supplierBillId) b) :
    ∃ rest : Dict String Charge,
      action.updateExistingBills documents bills id2charges db = .ok (rest, db) ∧
      ∀ k, rest.get? k = if k ∈ bills.map Bill.supplierBillId then none else id2charges.get? k := by
  induction bills generalizing id2charges with
  | nil => exact ⟨id2charges, rfl, fun k ↦ rfl⟩
  | cons bill bills ih =>
    obtain ⟨hbill, hbills⟩ := List.forall_mem_cons.mp hsettled
    rw [List.map_cons, List.nodup_cons] at hsids
    have hpopped : ∀ b ∈ bills, action.Settled documents
        ((id2charges.pop bill.supplierBillId).get? b.supplierBillId) b := by
      intro b hb
      rw [get?_pop_of_mem hsids.1 hb]
      exact hbills b hb
    obtain ⟨rest, hrun, hrest⟩ := ih hsids.2 hpopped
    refine ⟨rest, ?_, fun k ↦ ?_⟩
    · rw [updateExistingBills, Tx.bind_of_ok (updateExistingBill_of_settled hbill)]
      exact hrun
    · rw [hrest, ite_get?_pop]

/-- Charges change nothing if the bills are settled and there is one for every charge. -/
theorem saveCharges_of_settled {newId : String → UUID} {charges : List Charge} {db : Database}
    (hsettled : ∀ b ∈ db.bills, b.uid = action.uid →
      action.Settled documents (lastCharge charges b.supplierBillId) b)
    (hstored : ∀ c ∈ charges, ∃ b ∈ db.bills, b.uid = action.uid ∧
      b.supplierBillId = c.supplierBillId) :
    action.saveCharges documents newId charges db = .ok ((), db) := by
  have hvisited : ∀ b ∈ action.billsOf db, action.Settled documents
      ((Dict.ofList (charges.map fun el ↦ (el.supplierBillId, el))).get? b.supplierBillId) b := by
    intro b hb
    rw [get?_id2charges]
    exact hsettled b (mem_billsOf.mp hb).1 (mem_billsOf.mp hb).2
  obtain ⟨rest, hrun, hrest⟩ :=
    @updateExistingBills_of_settled action documents _ _ db (nodup_supplierBillIds db) hvisited
  rw [get?_id2charges] at hrest
  have hempty : rest.items = [] := by
    refine List.eq_nil_iff_forall_not_mem.mpr fun p hp ↦ ?_
    obtain ⟨hlast, hnone⟩ := (mem_rest_iff hrest).mp hp
    obtain ⟨b, hb, huid, hsid⟩ := hstored p.2 (mem_of_lastCharge hlast)
    exact hnone b hb huid (hsid.trans (supplierBillId_of_lastCharge hlast))
  have hfind : findBillsByUid action.uid db = .ok (action.billsOf db, db) :=
    Mapper.find_eq_ok.mpr ⟨rfl, rfl⟩
  rw [saveCharges, Tx.bind_of_ok hfind, Tx.bind_of_ok hrun, hempty]
  rfl

/-! ### A run succeeds -/

/-- The document of the charge resolves to a stored one, and its amounts are not zero. -/
structure Billable (documents : List Document) (stored : Table Document.documentId)
    (charge : Charge) : Prop where
  document : ∃ document, documents.find? (fun doc ↦
      doc.code = charge.document.code ∧ doc.value ∈ charge.document.value) = some document ∧
    (stored.get? document.documentId).isSome
  department : charge.department.isSome
  amounts : ∃ data amount amountToPay, charge.chargeData = some data ∧
    data.amount = some amount ∧ amount ≠ 0 ∧
    data.amountToPay = some amountToPay ∧ amountToPay ≠ 0

theorem Billable.makes {stored : Table Document.documentId} {charge : Charge}
    (h : Billable documents stored charge) (billId : UUID) :
    ∃ made, action.Makes documents charge billId made ∧
      (stored.get? made.documentId).isSome := by
  obtain ⟨⟨document, hfind, hstored⟩, hdepartment, data, amount, amountToPay, hdata, hamount,
    hnonzero, hamountToPay, hnonzero'⟩ := h
  have hfound : findDocument documents charge = pure document := by
    unfold findDocument
    rw [hfind]
  obtain ⟨payerDoc, supplierBillId, department, chargeData⟩ := charge
  obtain ⟨billDate, _, purpose, kbk, oktmo, inn, kpp, bik, accountNumber, payeeName, divId, _,
    payerName, treasureBranch, additionalData, paymentData⟩ := data
  obtain ⟨department, rfl⟩ := Option.isSome_iff_exists.mp hdepartment
  subst hdata hamount hamountToPay
  have hzero : ¬(amount = 0 ∨ amountToPay = 0) := not_or.mpr ⟨hnonzero, hnonzero'⟩
  refine ⟨?made, fun db ↦ ?_, ?_⟩
  rotate_left
  · rw [SearchFinesAction.chargeToBill, hfound, pure_bind, BillPayments.chargeToBill]
    simp only [if_neg hzero]
    rfl
  · cases additionalData <;> cases paymentData <;> exact hstored

/-- Bills that keep the constraints of their table can be stored. -/
theorem exists_withBills {db : Database} {bills : Table Bill.billId}
    (hunique : ∀ b ∈ bills, ∀ c ∈ bills, b.uid = c.uid →
      b.supplierBillId = c.supplierBillId → b.billId = c.billId)
    (huser : ∀ b ∈ bills, (db.users.get? b.uid).isSome)
    (hdocument : ∀ b ∈ bills, (db.documents.get? b.documentId).isSome)
    (hkept : ∀ k, (db.bills.get? k).isSome → (bills.get? k).isSome) :
    ∃ db' : Database, db'.toTables = { db.toTables with bills } :=
  ⟨⟨{ db.toTables with bills },
    ⟨db.unique.users_subscriptionId, hunique, db.unique.transactions_orderId_noncancelled⟩,
    ⟨db.references.documents_uid, huser, hdocument, db.references.orders_uid,
      db.references.transactions_orderId,
      fun r hr ↦ hkept r.billId (db.references.billOrders_billId r hr),
      db.references.billOrders_orderId⟩⟩, rfl⟩

/-- A bill can be rewritten by one of the same owner and supplier id with a stored document. -/
theorem exists_replaceBill {db : Database} {b b' : Bill} (hb : b ∈ db.bills)
    (hid : b'.billId = b.billId) (huid : b'.uid = b.uid)
    (hsid : b'.supplierBillId = b.supplierBillId)
    (hdocument : (db.documents.get? b'.documentId).isSome) :
    ∃ db' : Database, db'.toTables = { db.toTables with bills := db.bills.replace b' } := by
  -- Every row of the new table has the key, the owner and the supplier id of an old one.
  have hold : ∀ c ∈ db.bills.replace b', ∃ c₀ ∈ db.bills, c₀.billId = c.billId ∧
      c₀.uid = c.uid ∧ c₀.supplierBillId = c.supplierBillId := by
    intro c hc
    rcases Table.mem_replace.mp hc with ⟨hc, -⟩ | ⟨rfl, -⟩
    · exact ⟨c, hc, rfl, rfl, rfl⟩
    · exact ⟨b, hb, hid.symm, huid.symm, hsid.symm⟩
  refine exists_withBills ?_ ?_ ?_ fun k hk ↦ ?_
  · intro c hc d hd huids hsids
    obtain ⟨c₀, hc₀, hcid, hcuid, hcsid⟩ := hold c hc
    obtain ⟨d₀, hd₀, hdid, hduid, hdsid⟩ := hold d hd
    rw [← hcid, ← hdid]
    exact db.unique.bills_uid_supplierBillId c₀ hc₀ d₀ hd₀
      (hcuid.trans (huids.trans hduid.symm)) (hcsid.trans (hsids.trans hdsid.symm))
  · intro c hc
    obtain ⟨c₀, hc₀, -, hcuid, -⟩ := hold c hc
    exact hcuid ▸ db.references.bills_uid c₀ hc₀
  · intro c hc
    rcases Table.mem_replace.mp hc with ⟨hc, -⟩ | ⟨rfl, -⟩
    · exact db.references.bills_documentId c hc
    · exact hdocument
  · rwa [Table.isSome_get?_replace]

/-- A bill can be added under a free identifier if its owner has none of its supplier id. -/
theorem exists_insertBill {db : Database} {b : Bill} (hfree : db.bills.get? b.billId = none)
    (hnone : ∀ c ∈ db.bills, c.uid = b.uid → c.supplierBillId ≠ b.supplierBillId)
    (huser : (db.users.get? b.uid).isSome)
    (hdocument : (db.documents.get? b.documentId).isSome) :
    ∃ db' : Database, db'.toTables = { db.toTables with bills := db.bills.insert b } := by
  refine exists_withBills ?_ ?_ ?_ fun k hk ↦ ?_
  · intro c hc d hd huids hsids
    rw [Table.mem_insert hfree] at hc hd
    rcases hc with hc | hc <;> rcases hd with hd | hd
    · exact db.unique.bills_uid_supplierBillId c hc d hd huids hsids
    · exact absurd (hd ▸ hsids) (hnone c hc (hd ▸ huids))
    · exact absurd (hc ▸ hsids.symm) (hnone d hd (hc ▸ huids.symm))
    · rw [hc, hd]
  · intro c hc
    rcases (Table.mem_insert hfree).mp hc with hc | rfl
    · exact db.references.bills_uid c hc
    · exact huser
  · intro c hc
    rcases (Table.mem_insert hfree).mp hc with hc | rfl
    · exact db.references.bills_documentId c hc
    · exact hdocument
  · rw [Table.get?_insert hfree]
    split_ifs
    · rfl
    · exact hk

theorem updateExistingBill_total {bill : Bill} {charge : Option Charge} {db : Database}
    (hbill : bill ∈ db.bills) (huid : bill.uid = action.uid)
    (hcharge : ∀ c, charge = some c → c.supplierBillId = bill.supplierBillId ∧
      Billable documents db.documents c) :
    ∃ db', action.updateExistingBill documents bill charge db = .ok ((), db') := by
  have hsaved : ∀ b' : Bill, b'.billId = bill.billId → b'.uid = bill.uid →
      b'.supplierBillId = bill.supplierBillId → (db.documents.get? b'.documentId).isSome →
      ∃ db', billMapper.save b' db = .ok (b', db') := by
    intro b' hid huid' hsid hdocument
    obtain ⟨db', hdb'⟩ := exists_replaceBill hbill hid huid' hsid hdocument
    exact ⟨db', Mapper.save_eq_ok.mpr
      ⟨rfl, Table.isSome_get?_iff.mpr ⟨bill, hbill, hid.symm⟩, hdb'⟩⟩
  cases charge with
  | none =>
    simp only [updateExistingBill]
    split_ifs with hnew
    · obtain ⟨db', hsave⟩ := hsaved { bill with status := .gone } rfl rfl rfl
        (db.references.bills_documentId bill hbill)
      rw [Tx.bind_of_ok hsave]
      exact ⟨db', rfl⟩
    · exact ⟨db, rfl⟩
  | some c =>
    obtain ⟨hsid, hbillable⟩ := hcharge c rfl
    obtain ⟨made, hmakes, hdocument⟩ := hbillable.makes bill.billId
    obtain ⟨hid, huid', hsid', -⟩ := hmakes.fields
    simp only [updateExistingBill]
    rw [Tx.bind_of_ok (hmakes db)]
    split_ifs with hchanged
    · obtain ⟨db', hsave⟩ :=
        hsaved made hid (huid'.trans huid.symm) (hsid'.trans hsid) hdocument
      rw [Tx.bind_of_ok hsave]
      exact ⟨db', rfl⟩
    · exact ⟨db, rfl⟩

theorem updateExistingBills_total {bills : List Bill} {id2charges : Dict String Charge}
    {db : Database} (hstored : ∀ b ∈ bills, b ∈ db.bills ∧ b.uid = action.uid)
    (hids : (bills.map Bill.billId).Nodup)
    (hcharges : ∀ p ∈ id2charges.items, p.2.supplierBillId = p.1 ∧
      Billable documents db.documents p.2) :
    ∃ rest db', action.updateExistingBills documents bills id2charges db = .ok (rest, db') := by
  induction bills generalizing id2charges db with
  | nil => exact ⟨id2charges, db, rfl⟩
  | cons bill bills ih =>
    obtain ⟨hmem, huid⟩ := hstored bill List.mem_cons_self
    have hcharge : ∀ c, id2charges.get? bill.supplierBillId = some c →
        c.supplierBillId = bill.supplierBillId ∧ Billable documents db.documents c :=
      fun c hc ↦ hcharges _ (Dict.get?_eq_some_iff.mp hc)
    obtain ⟨db₁, hstep⟩ := updateExistingBill_total hmem huid hcharge
    obtain ⟨bill', hupdated, hdb₁⟩ := updateExistingBill_updated hmem hstep
    obtain ⟨hid, -, -⟩ := hupdated.keeps huid fun c hc ↦ (hcharge c hc).1
    have hbills : db₁.bills = db.bills.replace bill' := by rw [hdb₁]
    have hdocuments : db₁.documents = db.documents := by rw [hdb₁]
    rw [List.map_cons, List.nodup_cons] at hids
    rw [updateExistingBills, Tx.bind_of_ok hstep]
    refine ih (fun b hb ↦ ?_) hids.2 fun p hp ↦ ?_
    · obtain ⟨hmemb, huidb⟩ := hstored b (List.mem_cons_of_mem _ hb)
      refine ⟨?_, huidb⟩
      rw [hbills, Table.mem_replace]
      refine Or.inl ⟨hmemb, fun heq ↦ hids.1 ?_⟩
      rw [← hid, ← heq]
      exact List.mem_map_of_mem hb
    · rw [hdocuments]
      exact hcharges p (Dict.mem_pop.mp hp).1

/-- What the identifiers that `uuid4` draws satisfy: none is taken, no two are the same. -/
structure Draws (newId : String → UUID) (charges : List Charge) (db : Database) : Prop where
  free : ∀ c ∈ charges, ∀ b ∈ db.bills, b.billId ≠ newId c.supplierBillId
  distinct : ∀ c ∈ charges, ∀ d ∈ charges,
    newId c.supplierBillId = newId d.supplierBillId → c.supplierBillId = d.supplierBillId

theorem createNewBills_total {newId : String → UUID} {charges : List (String × Charge)}
    {db : Database} (huser : (db.users.get? action.uid).isSome)
    (hdistinct : ∀ p ∈ charges, ∀ q ∈ charges, newId p.1 = newId q.1 → p.1 = q.1)
    (hkeys : (charges.map Prod.fst).Nodup)
    (hcharges : ∀ p ∈ charges, p.2.supplierBillId = p.1 ∧ Billable documents db.documents p.2 ∧
      ∀ b ∈ db.bills, b.billId ≠ newId p.1 ∧
        (b.uid = action.uid → b.supplierBillId ≠ p.1)) :
    ∃ db', action.createNewBills documents newId charges db = .ok ((), db') := by
  induction charges generalizing db with
  | nil => exact ⟨db, rfl⟩
  | cons p charges ih =>
    obtain ⟨supplierBillId, charge⟩ := p
    obtain ⟨⟨hsid, hbillable, hnone⟩, hrest⟩ := List.forall_mem_cons.mp hcharges
    obtain ⟨made, hmakes, hdocument⟩ := hbillable.makes (newId supplierBillId)
    obtain ⟨hid, huid, hmadeSid, -⟩ := hmakes.fields
    have hfree : db.bills.get? made.billId = none :=
      Table.get?_eq_none_iff.mpr fun b hb ↦ hid ▸ (hnone b hb).1
    obtain ⟨db₁, hdb₁⟩ := exists_insertBill hfree
      (fun b hb hbuid ↦ hmadeSid.trans hsid ▸ (hnone b hb).2 (hbuid.trans huid))
      (huid ▸ huser) hdocument
    have hcreate : billMapper.create made db = .ok (made, db₁) :=
      Mapper.create_eq_ok.mpr ⟨rfl, hfree, hdb₁⟩
    have husers : db₁.users = db.users := by rw [hdb₁]
    have hdocuments : db₁.documents = db.documents := by rw [hdb₁]
    have hbills : db₁.bills = db.bills.insert made := by rw [hdb₁]
    rw [List.map_cons, List.nodup_cons] at hkeys
    rw [createNewBills, Tx.bind_of_ok (hmakes db), Tx.bind_of_ok hcreate]
    refine ih (husers ▸ huser) (fun p hp q hq ↦ hdistinct p (List.mem_cons_of_mem _ hp) q
      (List.mem_cons_of_mem _ hq)) hkeys.2 fun p hp ↦ ?_
    obtain ⟨hpsid, hpbillable, hpnone⟩ := hrest p hp
    refine ⟨hpsid, hdocuments ▸ hpbillable, fun b hb ↦ ?_⟩
    have hother : p.1 ≠ supplierBillId := by
      rintro rfl
      exact hkeys.1 (List.mem_map.mpr ⟨p, hp, rfl⟩)
    rw [hbills, Table.mem_insert hfree] at hb
    rcases hb with hb | rfl
    · exact hpnone b hb
    · refine ⟨fun heq ↦ hother ?_, fun _ heq ↦ hother ?_⟩
      · exact hdistinct p (List.mem_cons_of_mem _ hp) _ List.mem_cons_self (heq.symm.trans hid)
      · exact heq.symm.trans (hmadeSid.trans hsid)

/-- A run succeeds when the charges that count are charges of stored documents. -/
theorem saveCharges_total {newId : String → UUID} {charges : List Charge} {db : Database}
    (huser : (db.users.get? action.uid).isSome)
    (hcharges : ∀ supplierBillId c, lastCharge charges supplierBillId = some c →
      Billable documents db.documents c)
    (hdraws : Draws newId charges db) :
    ∃ db', action.saveCharges documents newId charges db = .ok ((), db') := by
  have hentries : ∀ p ∈ (Dict.ofList (charges.map fun el ↦ (el.supplierBillId, el))).items,
      p.2.supplierBillId = p.1 ∧ Billable documents db.documents p.2 := by
    intro p hp
    have hlast : lastCharge charges p.1 = some p.2 := by
      rw [← get?_id2charges]
      exact Dict.get?_eq_some_iff.mpr hp
    exact ⟨supplierBillId_of_lastCharge hlast, hcharges p.1 p.2 hlast⟩
  obtain ⟨rest, db₁, hexisting⟩ := @updateExistingBills_total action documents _ _ db
    (fun b hb ↦ mem_billsOf.mp hb) (nodup_billsOf db) hentries
  obtain ⟨hall, hrest⟩ := updateExistingBills_allUpdated (fun b hb ↦ mem_billsOf.mp hb)
    (nodup_billsOf db) (nodup_supplierBillIds db) (fun p hp ↦ (hentries p hp).1) hexisting
  rw [get?_id2charges] at hall hrest
  have husers : db₁.users = db.users := by rw [hall.others]
  have hdocuments : db₁.documents = db.documents := by rw [hall.others]
  -- The first loop leaves the identifiers, the owners and the supplier ids of the bills.
  have hold : ∀ b' ∈ db₁.bills, ∃ b ∈ db.bills, b'.billId = b.billId ∧ b'.uid = b.uid ∧
      b'.supplierBillId = b.supplierBillId := by
    intro b' hb'
    rcases hall.source b' hb' with ⟨hb', -⟩ | ⟨b, hb, hupdated⟩
    · exact ⟨b', hb', rfl, rfl, rfl⟩
    · obtain ⟨hb, huid⟩ := mem_billsOf.mp hb
      exact ⟨b, hb, hupdated.keeps huid fun c hc ↦ supplierBillId_of_lastCharge hc⟩
  have hmem : ∀ p ∈ rest.items, p.2 ∈ charges ∧ p.2.supplierBillId = p.1 ∧
      Billable documents db.documents p.2 ∧
      ∀ b ∈ db.bills, b.uid = action.uid → b.supplierBillId ≠ p.1 := by
    intro p hp
    obtain ⟨hcharge, hnone⟩ := (mem_rest_iff hrest).mp hp
    exact ⟨mem_of_lastCharge hcharge, supplierBillId_of_lastCharge hcharge,
      hcharges p.1 p.2 hcharge, hnone⟩
  have hdistinct : ∀ p ∈ rest.items, ∀ q ∈ rest.items, newId p.1 = newId q.1 → p.1 = q.1 := by
    intro p hp q hq heq
    obtain ⟨hpmem, hpsid, -⟩ := hmem p hp
    obtain ⟨hqmem, hqsid, -⟩ := hmem q hq
    rw [← hpsid, ← hqsid] at heq ⊢
    exact hdraws.distinct p.2 hpmem q.2 hqmem heq
  obtain ⟨db₂, hnew⟩ := createNewBills_total (husers ▸ huser) hdistinct rest.nodup fun p hp ↦ by
    obtain ⟨hpmem, hpsid, hbillable, hnone⟩ := hmem p hp
    refine ⟨hpsid, hdocuments ▸ hbillable, fun b' hb' ↦ ?_⟩
    obtain ⟨b, hb, hid, huid, hsid⟩ := hold b' hb'
    rw [hid, huid, hsid]
    exact ⟨hpsid ▸ hdraws.free p.2 hpmem b hb, hnone b hb⟩
  have hfind : findBillsByUid action.uid db = .ok (action.billsOf db, db) :=
    Mapper.find_eq_ok.mpr ⟨rfl, rfl⟩
  refine ⟨db₂, ?_⟩
  rw [saveCharges, Tx.bind_of_ok hfind, Tx.bind_of_ok hexisting]
  exact hnew

def storedDocument : Document where
  documentId := ⟨10⟩
  uid := 1
  code := .driverLicense
  value := "7700"

/-- A charge of the stored document. -/
def chargeOf (supplierBillId : String) (amount : ℤ) : Charge where
  document := ⟨.driverLicense, ["7700"]⟩
  supplierBillId
  department := some .gibdd
  chargeData := some ⟨0, some amount, none, none, none, none, none, none, none, none, none,
    some amount, none, none, none, none⟩

def storedBill (billId : ℕ) (supplierBillId : String) (status : BillStatus) : Bill where
  billId := ⟨billId⟩
  uid := 1
  supplierBillId
  documentId := ⟨10⟩
  status
  amount := 100
  amountToPay := 100
  billDate := 0

/-- One bill of each status that has a charge, one that has none, and a bill that is gone. -/
def mixedDatabase : Database where
  users := ⟨[{ uid := 1, syncingRevision := some 1 }], by decide⟩
  documents := ⟨[storedDocument], by decide⟩
  bills := ⟨[storedBill 1 "new" .new, storedBill 2 "paid" .paid, storedBill 3 "revived" .gone,
    storedBill 4 "missing" .new, storedBill 5 "gone" .gone], by decide⟩
  orders := .empty
  billOrders := .empty
  transactions := .empty
  tasks := .empty
  unique := by decide
  references := by decide

def mixedCharges : List Charge :=
  [chargeOf "new" 100, chargeOf "paid" 200, chargeOf "revived" 300, chargeOf "first" 400,
    chargeOf "new" 500]

def drawnId (supplierBillId : String) : UUID := ⟨20 + supplierBillId.length⟩

theorem billable_chargeOf (supplierBillId : String) {amount : ℤ} (h : amount ≠ 0) :
    Billable [storedDocument] mixedDatabase.documents (chargeOf supplierBillId amount) where
  document := ⟨storedDocument, rfl, rfl⟩
  department := rfl
  amounts := ⟨_, amount, amount, rfl, rfl, h, rfl, h⟩

end YandexPay.BillPayments.SearchFinesAction
