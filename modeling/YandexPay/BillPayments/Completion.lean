import YandexPay.BillPayments.Charges
import Mathlib.Algebra.Group.Int.Defs
import Mathlib.Data.List.ReduceOption

/-!
# The answers with which a search completes

`SearchFinesAction._complete` saves the charges of an answer and marks the revision of the search as
synced, in one transaction. The columns of the bills are BIGINT and TEXT, and the server rejects a
statement that writes a value which they do not hold.

The assertions of `charge_to_bill` take an amount of zero for a missing one, also when the bill is
paid and the charge is not saved. `completes_iff` says with which admissible answers a search
completes.
-/

set_option autoImplicit false
set_option relaxedAutoImplicit false

namespace YandexPay.BillPayments

/-! ### The columns of a bill -/

def IsBigint (n : ℤ) : Prop := -2 ^ 63 ≤ n ∧ n < 2 ^ 63

instance (n : ℤ) : Decidable (IsBigint n) := inferInstanceAs (Decidable (_ ∧ _))

/-- A text of the database has no NUL. -/
def IsText (text : String) : Prop := Char.ofNat 0 ∉ text.toList

instance (text : String) : Decidable (IsText text) := inferInstanceAs (Decidable (_ ∉ _))

/-- Numbers for BIGINT columns and texts for TEXT columns. -/
structure FitColumns (integers : List ℤ) (texts : List String) : Prop where
  integers : ∀ n ∈ integers, IsBigint n
  texts : ∀ text ∈ texts, IsText text

instance (integers : List ℤ) (texts : List String) : Decidable (FitColumns integers texts) :=
  decidable_of_iff ((∀ n ∈ integers, IsBigint n) ∧ ∀ text ∈ texts, IsText text)
    ⟨fun h ↦ ⟨h.1, h.2⟩, fun h ↦ ⟨h.1, h.2⟩⟩

/-- The numbers of a bill, but for its owner, who is stored already. -/
def Bill.integers (bill : Bill) : List ℤ :=
  [some bill.amount, some bill.amountToPay, bill.divId, bill.paidAmount].reduceOption

def Bill.texts (bill : Bill) : List String :=
  bill.supplierBillId :: [bill.purpose, bill.kbk, bill.oktmo, bill.inn, bill.kpp, bill.bik,
    bill.accountNumber, bill.payeeName, bill.payerName, bill.treasureBranch, bill.discountSize,
    bill.legalAct, bill.offenseName, bill.offensePlace].reduceOption

def Bill.FitsColumns (bill : Bill) : Prop := FitColumns bill.integers bill.texts

def Charge.integers (charge : Charge) : List ℤ :=
  match charge.chargeData with
  | none => []
  | some data => [data.amount, data.amountToPay, data.divId,
      data.paymentData.bind PaymentData.sum].reduceOption

def Charge.texts (charge : Charge) : List String :=
  charge.supplierBillId :: match charge.chargeData with
  | none => []
  | some data => [data.purpose, data.kbk, data.oktmo, data.inn, data.kpp, data.bik,
      data.accountNumber, data.payeeName, data.payerName, data.treasureBranch,
      data.additionalData.bind AdditionalData.discountSize,
      data.additionalData.bind AdditionalData.legalAct,
      data.additionalData.bind AdditionalData.offenseName,
      data.additionalData.bind AdditionalData.offensePlace].reduceOption

/-- The values of the charge that a bill takes over. -/
def Charge.FitsColumns (charge : Charge) : Prop := FitColumns charge.integers charge.texts

instance (bill : Bill) : Decidable bill.FitsColumns :=
  inferInstanceAs (Decidable (FitColumns _ _))

instance (charge : Charge) : Decidable charge.FitsColumns :=
  inferInstanceAs (Decidable (FitColumns _ _))

def Database.FitsColumns (db : Database) : Prop := ∀ bill ∈ db.bills, bill.FitsColumns

instance (db : Database) : Decidable db.FitsColumns :=
  inferInstanceAs (Decidable (∀ bill ∈ db.bills, bill.FitsColumns))

/-! ### Syncing the revision -/

/-- A user can be rewritten by one of the same subscription. -/
theorem exists_replaceUser {db : Database} {user user' : User} (huser : user ∈ db.users)
    (hid : user'.uid = user.uid) (hsubscription : user'.subscriptionId = user.subscriptionId) :
    ∃ db' : Database, db'.toTables = { db.toTables with users := db.users.replace user' } := by
  have hold : ∀ u ∈ db.users.replace user', ∃ u₀ ∈ db.users, u₀.uid = u.uid ∧
      u₀.subscriptionId = u.subscriptionId := by
    intro u hu
    rcases Table.mem_replace.mp hu with ⟨hu, -⟩ | ⟨rfl, -⟩
    · exact ⟨u, hu, rfl, rfl⟩
    · exact ⟨user, huser, hid.symm, hsubscription.symm⟩
  have hunique : ∀ u ∈ db.users.replace user', ∀ v ∈ db.users.replace user',
      u.subscriptionId = v.subscriptionId → u.subscriptionId ≠ none → u.uid = v.uid := by
    intro u hu v hv hsame hsome
    obtain ⟨u₀, hu₀, huid, husubscription⟩ := hold u hu
    obtain ⟨v₀, hv₀, hvid, hvsubscription⟩ := hold v hv
    rw [← huid, ← hvid]
    rw [← husubscription] at hsame hsome
    exact db.unique.users_subscriptionId u₀ hu₀ v₀ hv₀ (hsame.trans hvsubscription.symm) hsome
  have hkept (uid : ℤ) (h : (db.users.get? uid).isSome) :
      ((db.users.replace user').get? uid).isSome := by
    rwa [Table.isSome_get?_replace]
  exact ⟨⟨{ db.toTables with users := db.users.replace user' },
    ⟨hunique, db.unique.bills_uid_supplierBillId, db.unique.transactions_orderId_noncancelled⟩,
    ⟨fun d hd ↦ hkept _ (db.references.documents_uid d hd),
      fun b hb ↦ hkept _ (db.references.bills_uid b hb), db.references.bills_documentId,
      fun o ho ↦ hkept _ (db.references.orders_uid o ho), db.references.transactions_orderId,
      db.references.billOrders_billId, db.references.billOrders_orderId⟩⟩, rfl⟩

theorem updateSyncedRevision_total {uid : ℤ} {revision : ℕ} {db : Database} {user : User}
    (huser : db.users.get? uid = some user) (hsyncing : user.syncingRevision = some revision) :
    ∃ db', updateSyncedRevision uid revision db = .ok ((), db') := by
  have hmem := (Table.get?_eq_some_iff.mp huser).1
  obtain ⟨db', hdb'⟩ := @exists_replaceUser db user
    { user with syncingRevision := none, syncedRevision := revision } hmem rfl rfl
  have hsave : userMapper.save
      { user with syncingRevision := none, syncedRevision := revision } db = .ok (_, db') :=
    Mapper.save_eq_ok.mpr ⟨rfl, Table.isSome_get?_iff.mpr ⟨user, hmem, rfl⟩, hdb'⟩
  refine ⟨db', ?_⟩
  rw [updateSyncedRevision, Tx.bind_of_ok (Mapper.get_eq_ok.mpr ⟨huser, rfl⟩), if_pos hsyncing,
    Tx.bind_of_ok hsave]
  rfl

namespace SearchFinesAction

variable {action : SearchFinesAction} {documents : List Document}

/-! ### Charges that give a bill -/

/-- An answer of Kazna is admissible when each charge is of a document of the user, has a department
and has amounts that are not negative. -/
structure Admissible (documents : List Document) (stored : Table Document.documentId)
    (charge : Charge) : Prop where
  document : ∃ document, documents.find? (fun doc ↦
      doc.code = charge.document.code ∧ doc.value ∈ charge.document.value) = some document ∧
    (stored.get? document.documentId).isSome
  department : charge.department.isSome
  amounts : ∃ data amount amountToPay, charge.chargeData = some data ∧
    data.amount = some amount ∧ 0 ≤ amount ∧ data.amountToPay = some amountToPay ∧ 0 ≤ amountToPay

/-- Neither amount is zero. -/
def Nonzero (charge : Charge) : Prop :=
  ∀ data, charge.chargeData = some data → data.amount ≠ some 0 ∧ data.amountToPay ≠ some 0

theorem Admissible.billable {stored : Table Document.documentId} {charge : Charge}
    (h : Admissible documents stored charge) (hnonzero : Nonzero charge) :
    Billable documents stored charge where
  document := h.document
  department := h.department
  amounts := by
    obtain ⟨data, amount, amountToPay, hdata, hamount, -, hamountToPay, -⟩ := h.amounts
    obtain ⟨hne, hne'⟩ := hnonzero data hdata
    refine ⟨data, amount, amountToPay, hdata, hamount, ?_, hamountToPay, ?_⟩
    · rintro rfl
      exact hne hamount
    · rintro rfl
      exact hne' hamountToPay

/-- A charge that gives a bill has amounts that are not zero, and its values are those of the
bill. -/
theorem Makes.values {charge : Charge} {billId : UUID} {bill : Bill}
    (h : action.Makes documents charge billId bill) :
    Nonzero charge ∧ bill.integers = charge.integers ∧ bill.texts = charge.texts := by
  have hok := h .empty
  rw [SearchFinesAction.chargeToBill, Tx.bind_eq_ok] at hok
  obtain ⟨document, db, -, hok⟩ := hok
  obtain ⟨payerDoc, supplierBillId, department, chargeData⟩ := charge
  rcases department with _ | department
  · exact (Tx.throw_ne_ok.mp hok).elim
  rcases chargeData with _ | data
  · exact (Tx.throw_ne_ok.mp hok).elim
  obtain ⟨billDate, amountToPay, purpose, kbk, oktmo, inn, kpp, bik, accountNumber, payeeName,
    divId, amount, payerName, treasureBranch, additionalData, paymentData⟩ := data
  rcases amount with _ | amount
  · exact (Tx.throw_ne_ok.mp hok).elim
  rcases amountToPay with _ | amountToPay
  · exact (Tx.throw_ne_ok.mp hok).elim
  simp only [BillPayments.chargeToBill] at hok
  split_ifs at hok with hzero
  · exact (Tx.throw_ne_ok.mp hok).elim
  obtain ⟨rfl, -⟩ := Tx.pure_eq_ok.mp hok
  rw [not_or] at hzero
  refine ⟨?_, ?_⟩
  · rintro data hdata
    obtain rfl := Option.some.inj hdata
    exact ⟨fun h ↦ hzero.1 (Option.some.inj h), fun h ↦ hzero.2 (Option.some.inj h)⟩
  · cases additionalData <;> cases paymentData <;> exact ⟨rfl, rfl⟩

theorem Makes.fitsColumns_iff {charge : Charge} {billId : UUID} {bill : Bill}
    (h : action.Makes documents charge billId bill) :
    bill.FitsColumns ↔ charge.FitsColumns := by
  obtain ⟨-, hintegers, htexts⟩ := h.values
  rw [Bill.FitsColumns, Charge.FitsColumns, hintegers, htexts]

/-! ### What a run needs -/

/-- The user has a bill of the supplier id that is paid. -/
def HasPaid (action : SearchFinesAction) (db : Database) (supplierBillId : String) : Prop :=
  ∃ bill ∈ db.bills, bill.uid = action.uid ∧ bill.supplierBillId = supplierBillId ∧
    bill.status = .paid

/-- A charge that counts gives a bill, which is stored unless one of its supplier id is paid. -/
theorem made_of_saveCharges {newId : String → UUID} {charges : List Charge} {u : Unit}
    {db db' : Database} (h : action.saveCharges documents newId charges db = .ok (u, db'))
    {supplierBillId : String} {c : Charge} (hc : lastCharge charges supplierBillId = some c) :
    ∃ made, action.Makes documents c made.billId made ∧
      (action.HasPaid db supplierBillId ∨ made ∈ db'.bills) := by
  obtain ⟨rest, db₁, hall, hnew, hrest⟩ := saveCharges_loops h
  by_cases hstored : ∃ b ∈ db.bills, b.uid = action.uid ∧ b.supplierBillId = supplierBillId
  · obtain ⟨b, hb, huid, hsid⟩ := hstored
    obtain ⟨b', hb', hupdated⟩ := hall.updated b (mem_billsOf.mpr ⟨hb, huid⟩)
    rw [hsid, hc] at hupdated
    obtain ⟨made, hmakes, hmade⟩ := hupdated
    refine ⟨made, ?_, ?_⟩
    · rw [hmakes.fields.1]
      exact hmakes
    · by_cases hpaid : b.status = .paid
      · exact .inl ⟨b, hb, huid, hsid, hpaid⟩
      · rw [if_neg hpaid] at hmade
        exact .inr (hnew.kept made (hmade ▸ hb'))
  · have hmem : (supplierBillId, c) ∈ rest.items :=
      (mem_rest_iff hrest).mpr ⟨hc, fun b hb huid hsid ↦ hstored ⟨b, hb, huid, hsid⟩⟩
    obtain ⟨made, hmade, hmakes⟩ := hnew.created _ hmem
    refine ⟨made, ?_, .inr hmade⟩
    rw [hmakes.fields.1]
    exact hmakes

/-- A run leaves values that fit when the charges that it stores have such values. -/
theorem fitsColumns_of_saveCharges {newId : String → UUID} {charges : List Charge} {u : Unit}
    {db db' : Database} (h : action.saveCharges documents newId charges db = .ok (u, db'))
    (hcolumns : db.FitsColumns)
    (hcharges : ∀ supplierBillId c, lastCharge charges supplierBillId = some c →
      c.FitsColumns ∨ action.HasPaid db supplierBillId) : db'.FitsColumns := by
  obtain ⟨rest, db₁, hall, hnew, hrest⟩ := saveCharges_loops h
  intro b' hb'
  rcases hnew.source b' hb' with hb' | ⟨p, hp, hmakes⟩
  · rcases hall.source b' hb' with ⟨hb', -⟩ | ⟨b, hb, hupdated⟩
    · exact hcolumns b' hb'
    · obtain ⟨hb, huid⟩ := mem_billsOf.mp hb
      cases hcharge : lastCharge charges b.supplierBillId with
      | none =>
        rw [hcharge, Updated] at hupdated
        rw [hupdated]
        split_ifs
        · exact hcolumns b hb
        · exact hcolumns b hb
      | some c =>
        rw [hcharge] at hupdated
        obtain ⟨made, hmakes, hmade⟩ := hupdated
        rw [hmade]
        split_ifs with hpaid
        · exact hcolumns b hb
        · rcases hcharges _ c hcharge with hfits | ⟨d, hd, hduid, hdsid, hdpaid⟩
          · exact hmakes.fitsColumns_iff.mpr hfits
          · -- The user has only one bill of the supplier id, and it is not paid.
            have hsame := Table.eq_of_key_eq hd hb
              (db.unique.bills_uid_supplierBillId d hd b hb (hduid.trans huid.symm) hdsid)
            exact absurd (hsame ▸ hdpaid) hpaid
  · obtain ⟨hlast, hnone⟩ := (mem_rest_iff hrest).mp hp
    rcases hcharges p.1 p.2 hlast with hfits | ⟨d, hd, hduid, hdsid, -⟩
    · exact hmakes.fitsColumns_iff.mpr hfits
    · exact absurd hdsid (hnone d hd hduid)

/-! ### Completion -/

/-- `_complete` commits: no statement raises, the server takes the rows that are left, and the
revision of the search is synced. -/
def Completes (action : SearchFinesAction) (documents : List Document) (newId : String → UUID)
    (charges : List Charge) (db : Database) : Prop :=
  ∃ db', action.complete documents newId charges db = .ok ((), db') ∧ db'.FitsColumns ∧
    ∃ user, db'.users.get? action.uid = some user ∧ user.syncedRevision = action.revision

/-- A search that holds its user completes with an admissible answer exactly when no charge that
counts has an amount of zero and the values of those that are stored fit their columns. -/
theorem completes_iff (action : SearchFinesAction) (documents : List Document)
    {newId : String → UUID} {charges : List Charge} {db : Database} (hcolumns : db.FitsColumns)
    (huser : ∃ user, db.users.get? action.uid = some user ∧
      user.syncingRevision = some action.revision)
    (hadmissible : ∀ c ∈ charges, Admissible documents db.documents c)
    (hdraws : Draws newId charges db) :
    action.Completes documents newId charges db ↔
      ∀ supplierBillId c, lastCharge charges supplierBillId = some c →
        Nonzero c ∧ (c.FitsColumns ∨ action.HasPaid db supplierBillId) := by
  obtain ⟨user, huser, hsyncing⟩ := huser
  constructor
  · rintro ⟨db', hcomplete, hfits, -⟩ supplierBillId c hc
    rw [complete, Tx.bind_eq_ok] at hcomplete
    obtain ⟨u, db₁, hsave, hsynced⟩ := hcomplete
    obtain ⟨user', -, -, hdb'⟩ := updateSyncedRevision_ok hsynced
    have hbills : db'.bills = db₁.bills := by rw [hdb']
    obtain ⟨made, hmakes, hstored⟩ := made_of_saveCharges hsave hc
    refine ⟨hmakes.values.1, ?_⟩
    rcases hstored with hpaid | hmem
    · exact .inr hpaid
    · exact .inl (hmakes.fitsColumns_iff.mp (hfits made (hbills ▸ hmem)))
  · intro h
    obtain ⟨db₁, hsave⟩ := saveCharges_total (Option.isSome_iff_exists.mpr ⟨user, huser⟩)
      (fun supplierBillId c hc ↦
        (hadmissible c (mem_of_lastCharge hc)).billable (h supplierBillId c hc).1) hdraws
    have husers : db₁.users = db.users := by rw [(saveCharges_ok hsave).others]
    obtain ⟨db', hsynced⟩ := updateSyncedRevision_total (husers ▸ huser) hsyncing
    obtain ⟨user', huser', -, hdb'⟩ := updateSyncedRevision_ok hsynced
    have hbills : db'.bills = db₁.bills := by rw [hdb']
    refine ⟨db', ?_, ?_, { user' with syncingRevision := none, syncedRevision := action.revision },
      ?_, rfl⟩
    · rw [complete, Tx.bind_of_ok hsave]
      exact hsynced
    · intro b hb
      refine fitsColumns_of_saveCharges hsave hcolumns (fun supplierBillId c hc ↦ ?_) b
        (hbills ▸ hb)
      exact (h supplierBillId c hc).2
    · rw [hdb']
      have hkey := (Table.get?_eq_some_iff.mp huser').2
      rw [Table.get?_replace, if_pos hkey.symm, huser']
      rfl

theorem completes_iff_witness :
    Completes ⟨1, 1, false⟩ [storedDocument] drawnId mixedCharges mixedDatabase := by
  refine (completes_iff ⟨1, 1, false⟩ [storedDocument] (by decide +kernel) ⟨_, rfl, rfl⟩
    ?_ ⟨by decide, by decide⟩).mpr ?_
  · intro c hc
    simp only [mixedCharges, List.mem_cons, List.not_mem_nil, or_false] at hc
    rcases hc with rfl | rfl | rfl | rfl | rfl <;>
      exact ⟨⟨storedDocument, rfl, rfl⟩, rfl, _, _, _, rfl, rfl, by decide, rfl, by decide⟩
  · intro supplierBillId c hc
    have hmem := mem_of_lastCharge hc
    simp only [mixedCharges, List.mem_cons, List.not_mem_nil, or_false] at hmem
    rcases hmem with rfl | rfl | rfl | rfl | rfl <;>
      exact ⟨fun data hdata ↦ by obtain rfl := Option.some.inj hdata; decide,
        .inl (by decide +kernel)⟩

/-! ### A paid fine -/

/-- The charge of a bill that has been paid: nothing is left to pay. -/
def settledCharge : Charge where
  document := ⟨.driverLicense, ["7700"]⟩
  supplierBillId := "paid"
  department := some .gibdd
  chargeData := some ⟨0, some 0, none, none, none, none, none, none, none, none, none,
    some 100, none, none, none, some ⟨some 100, some 0⟩⟩

/-- One charge with nothing left to pay keeps the search from completing. -/
theorem settledCharge_not_completes :
    (∀ c ∈ [chargeOf "new" 100, settledCharge],
      Admissible [storedDocument] mixedDatabase.documents c ∧ c.FitsColumns) ∧
    ¬ Completes ⟨1, 1, false⟩ [storedDocument] drawnId [chargeOf "new" 100, settledCharge]
      mixedDatabase := by
  constructor
  · intro c hc
    simp only [List.mem_cons, List.not_mem_nil, or_false] at hc
    rcases hc with rfl | rfl <;>
      exact ⟨⟨⟨storedDocument, rfl, rfl⟩, rfl, _, _, _, rfl, rfl, by decide, rfl, by decide⟩,
        by decide +kernel⟩
  · rintro ⟨db', hcomplete, -⟩
    rw [complete, Tx.bind_eq_ok] at hcomplete
    obtain ⟨u, db₁, hsave, -⟩ := hcomplete
    have hlast : lastCharge [chargeOf "new" 100, settledCharge] "paid" = some settledCharge := by
      decide +kernel
    obtain ⟨made, hmakes, -⟩ := made_of_saveCharges hsave hlast
    exact (hmakes.values.1 _ rfl).2 rfl

end SearchFinesAction

end YandexPay.BillPayments
