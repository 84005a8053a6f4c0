import Mathlib.Data.String.Basic
import YandexPay.Library.PyFloat
import YandexPay.Library.StableSort

/-!
# The hash of a cart

`Cart.hash` digests the measurements of the cart and, in the order of the products, the measurements
and the count of every item. The sort keeps the items of one product in the order in which they were
given, and a count enters as it is written.
-/

set_option autoImplicit false
set_option relaxedAutoImplicit false

namespace YandexPay.Entities

open PyDecimal Delimited

/-! ### The cart -/

structure Measurements where
  length : PyNumber
  height : PyNumber
  width : PyNumber
  weight : PyNumber
deriving DecidableEq

def Measurements.empty : Measurements := ⟨.int 0, .int 0, .int 0, .int 0⟩

structure ItemQuantity where
  count : Decimal
deriving DecidableEq

structure CartItem where
  productId : String
  quantity : ItemQuantity
  measurements : Option Measurements
deriving DecidableEq

structure Cart where
  items : List CartItem
  measurements : Option Measurements
deriving DecidableEq

/-! ### The digest -/

/-- What is digested of measurements, which count as `Measurements.empty()` where they are
absent. -/
def Cart.m : Option Measurements → List PyNumber
  | some x => [x.width, x.height, x.length, x.weight]
  | none => [.int 0, .int 0, .int 0, .int 0]

/-- A field of the digested text. -/
inductive HashField
  | number (a : PyNumber)
  | decimal (d : Decimal)

def HashField.str : HashField → String
  | .number a => a.str
  | .decimal d => d.str

def CartItem.hashFields (item : CartItem) : List HashField :=
  (Cart.m item.measurements).map .number ++ [.decimal item.quantity.count]

/-- What is digested of an item. -/
def CartItem.hashed (item : CartItem) : List PyNumber × Decimal :=
  (Cart.m item.measurements, item.quantity.count)

namespace Cart

variable (cart cart' : Cart)

/-- `sorted(self.items, key=lambda v: v.product_id)` -/
def sortedItems : List CartItem := sortBy CartItem.productId cart.items

def hashFields : List HashField :=
  (m cart.measurements).map .number ++ cart.sortedItems.flatMap CartItem.hashFields

def hashText : String := ":".intercalate (cart.hashFields.map HashField.str)

/-- `md5` gives the hexadecimal digest of bytes. -/
def hash (md5 : ByteArray → String) : String := md5 cart.hashText.toUTF8

/-! ### What the text determines -/

theorem map_eq_of_map_eq {α β γ δ : Type*} {f : α → β} {g : α → γ} {h : α → δ}
    (hinjective : ∀ a b, f a = f b → g a = g b → h a = h b) {l l' : List α}
    (hf : l.map f = l'.map f) (hg : l.map g = l'.map g) : l.map h = l'.map h := by
  induction l generalizing l' with
  | nil =>
    cases l' with
    | nil => rfl
    | cons b l' => exact absurd hf.symm (List.cons_ne_nil _ _)
  | cons a l ih =>
    cases l' with
    | nil => exact absurd hf (List.cons_ne_nil _ _)
    | cons b l' =>
      rw [List.map_cons, List.map_cons, List.cons.injEq] at hf hg ⊢
      exact ⟨hinjective a b hf.1 hg.1, ih hf.2 hg.2⟩

@[simp] theorem length_m (x : Option Measurements) : (m x).length = 4 := by
  cases x <;> rfl

theorem colon_notMem_str (field : HashField) : ':' ∉ field.str.toList := by
  cases field with
  | number a => exact PyNumber.notMem_str (by decide) (by decide)
  | decimal d => exact Decimal.notMem_str (by decide) (by decide)

theorem fields_eq_of_hashText_eq (h : cart.hashText = cart'.hashText) :
    cart.hashFields.map HashField.str = cart'.hashFields.map HashField.str := by
  have hcolon : ∀ (c : Cart), ∀ piece ∈ (c.hashFields.map HashField.str).map String.toList,
      ':' ∉ piece := by
    intro c piece hpiece
    rw [List.map_map] at hpiece
    obtain ⟨field, -, rfl⟩ := List.mem_map.mp hpiece
    exact colon_notMem_str field
  have hne : ∀ c : Cart, (c.hashFields.map HashField.str).map String.toList ≠ [] := by
    intro c
    apply List.ne_nil_of_length_pos
    simp [hashFields]
  have htext := congrArg String.toList h
  rw [hashText, hashText, String.toList_intercalate, String.toList_intercalate] at htext
  have hpieces := intercalate_injective (hne cart) (hne cart') (hcolon cart) (hcolon cart') htext
  exact List.map_injective_iff.mpr (fun _ _ ↦ String.toList_inj.mp) hpieces

/-- The texts of an item, from what is digested of it. -/
def itemTexts (hashed : List PyNumber × Decimal) : List String :=
  hashed.1.map PyNumber.str ++ [hashed.2.str]

theorem itemTexts_injective : Function.Injective itemTexts := by
  intro hashed hashed' h
  obtain ⟨hnumbers, hcount⟩ := List.append_inj' h rfl
  refine Prod.ext ?_ ?_
  · exact List.map_injective_iff.mpr PyNumber.str_injective hnumbers
  · exact Decimal.str_injective (List.singleton_inj.mp hcount)

theorem map_str_hashFields : cart.hashFields.map HashField.str =
    (m cart.measurements).map PyNumber.str ++
      (cart.sortedItems.map CartItem.hashed).flatMap itemTexts := by
  have hitem : ∀ item : CartItem,
      item.hashFields.map HashField.str = itemTexts item.hashed := by
    intro item
    rw [CartItem.hashFields, List.map_append, List.map_map]
    rfl
  rw [hashFields, List.map_append, List.map_map, List.map_flatMap, List.flatMap_map]
  simp only [hitem]
  rfl

/-- The items need no boundaries in the text: each has five fields. -/
theorem hashText_eq_iff : cart.hashText = cart'.hashText ↔
    m cart.measurements = m cart'.measurements ∧
      cart.sortedItems.map CartItem.hashed = cart'.sortedItems.map CartItem.hashed := by
  constructor
  · intro h
    have htexts := fields_eq_of_hashText_eq cart cart' h
    rw [map_str_hashFields, map_str_hashFields] at htexts
    obtain ⟨hcart, hitems⟩ := List.append_inj htexts (by simp)
    refine ⟨List.map_injective_iff.mpr PyNumber.str_injective hcart, ?_⟩
    rw [List.flatMap_map, List.flatMap_map] at hitems
    have hrecords := map_eq_of_flatMap_eq (n := 5) (by decide)
      (fun item ↦ by simp [itemTexts, CartItem.hashed]) hitems
    refine List.map_injective_iff.mpr itemTexts_injective ?_
    rw [List.map_map, List.map_map]
    exact hrecords
  · rintro ⟨hcart, hitems⟩
    rw [hashText, hashText, map_str_hashFields, map_str_hashFields, hcart, hitems]

/-! ### Carts of one content -/

/-- The quantities are equal, written alike or not. -/
def SameQuantity : Decimal → Decimal → Prop
  | .finite a, .finite b => a.value = b.value
  | d, d' => d = d'

/-- The item is the same, but for how its quantity is written. -/
def SameItem (item item' : CartItem) : Prop :=
  item.productId = item'.productId ∧ item.measurements = item'.measurements ∧
    SameQuantity item.quantity.count item'.quantity.count

/-- The second cart is the first one with its items permuted and their quantities rewritten. -/
def Rearranged : Prop :=
  cart.measurements = cart'.measurements ∧
    ∃ items, cart.items.Perm items ∧ List.Forall₂ SameItem items cart'.items

/-- The measurements agree, and item by item in product order measurements and counts; what is
absent counts as `Measurements.empty()`. -/
def SameContents : Prop :=
  m cart.measurements = m cart'.measurements ∧
    cart.sortedItems.map CartItem.hashed = cart'.sortedItems.map CartItem.hashed

/-- Of every product the carts have the same items in the same order, with counts written alike. -/
def SameWithinProducts : Prop :=
  ∀ productId,
    (cart.items.filter fun item ↦ item.productId = productId).map CartItem.hashed =
      (cart'.items.filter fun item ↦ item.productId = productId).map CartItem.hashed

variable {cart cart'}

theorem Rearranged.map_productId_sortedItems (h : Rearranged cart cart') :
    cart.sortedItems.map CartItem.productId = cart'.sortedItems.map CartItem.productId := by
  obtain ⟨-, items, hperm, hsame⟩ := h
  have hids : items.map CartItem.productId = cart'.items.map CartItem.productId := by
    rw [← List.forall₂_eq_eq_eq, List.forall₂_map_left_iff, List.forall₂_map_right_iff]
    exact hsame.imp fun _ _ hitem ↦ hitem.1
  apply map_key_sortBy_of_perm
  rw [← hids]
  exact hperm.map CartItem.productId

/-- Carts with the items of the same products have one digest of their items if and only if they
agree within every product. -/
theorem map_hashed_sortedItems_iff
    (hids : cart.sortedItems.map CartItem.productId = cart'.sortedItems.map CartItem.productId) :
    cart.sortedItems.map CartItem.hashed = cart'.sortedItems.map CartItem.hashed ↔
      SameWithinProducts cart cart' := by
  set pair : CartItem → String × (List PyNumber × Decimal) :=
    fun item ↦ (item.productId, item.hashed)
  have hsorted : ∀ c : Cart, c.sortedItems.map pair = sortBy Prod.fst (c.items.map pair) :=
    fun c ↦ map_sortBy Prod.fst pair c.items
  have hpairs : cart.sortedItems.map CartItem.hashed = cart'.sortedItems.map CartItem.hashed ↔
      cart.sortedItems.map pair = cart'.sortedItems.map pair := by
    constructor
    · intro h
      have hpair : ∀ a b : CartItem, a.productId = b.productId → a.hashed = b.hashed →
          pair a = pair b := fun _ _ hid hhashed ↦ Prod.ext hid hhashed
      exact map_eq_of_map_eq hpair hids h
    · intro h
      have hsnd := congrArg (List.map Prod.snd) h
      rwa [List.map_map, List.map_map] at hsnd
  have hfilter : ∀ (c : Cart) (productId : String),
      (c.items.map pair).filter (fun p ↦ p.1 = productId) =
        ((c.items.filter fun item ↦ item.productId = productId).map CartItem.hashed).map
          fun hashed ↦ (productId, hashed) := by
    intro c productId
    rw [List.filter_map, List.map_map]
    refine List.map_congr_left fun item hitem ↦ ?_
    have hid := of_decide_eq_true (List.mem_filter.mp hitem).2
    exact Prod.ext hid rfl
  rw [hpairs, hsorted, hsorted, sortBy_eq_sortBy_iff]
  refine forall_congr' fun productId ↦ ?_
  rw [hfilter, hfilter]
  exact (List.map_injective_iff.mpr (Prod.mk_right_injective productId)).eq_iff

/-! ### Absent measurements -/

variable (cart cart') in
/-- The measurements agree, absent ones with absent ones. -/
def SameMeasurements : Prop :=
  cart.measurements = cart'.measurements ∧
    cart.sortedItems.map CartItem.measurements = cart'.sortedItems.map CartItem.measurements

variable (cart cart') in
def AbsentAlike : Prop :=
  cart.measurements.isSome = cart'.measurements.isSome ∧
    cart.sortedItems.map (fun item ↦ item.measurements.isSome) =
      cart'.sortedItems.map fun item ↦ item.measurements.isSome

theorem eq_of_m_eq {x y : Option Measurements} (h : m x = m y) (hsome : x.isSome = y.isSome) :
    x = y := by
  cases x with
  | none =>
    cases y with
    | none => rfl
    | some y => exact absurd hsome Bool.false_ne_true
  | some x =>
    cases y with
    | none => exact absurd hsome.symm Bool.false_ne_true
    | some y =>
      obtain ⟨length, height, width, weight⟩ := x
      obtain ⟨length', height', width', weight'⟩ := y
      simp only [m, List.cons.injEq, and_true] at h
      obtain ⟨rfl, rfl, rfl, rfl⟩ := h
      rfl

theorem SameContents.sameMeasurements_iff (h : SameContents cart cart') :
    SameMeasurements cart cart' ↔ AbsentAlike cart cart' := by
  constructor
  · rintro ⟨hcart, hitems⟩
    refine ⟨congrArg Option.isSome hcart, ?_⟩
    have hsome := congrArg (List.map Option.isSome) hitems
    rwa [List.map_map, List.map_map] at hsome
  · rintro ⟨hcart, hitems⟩
    refine ⟨eq_of_m_eq h.1 hcart, ?_⟩
    exact map_eq_of_map_eq (fun _ _ hhashed ↦ eq_of_m_eq (congrArg Prod.fst hhashed)) h.2 hitems

/-! ### The hash -/

section

variable {md5 : ByteArray → String}
  (hmd5 : md5 cart.hashText.toUTF8 = md5 cart'.hashText.toUTF8 →
    cart.hashText.toUTF8 = cart'.hashText.toUTF8)
include hmd5

theorem hash_eq_iff : cart.hash md5 = cart'.hash md5 ↔ SameContents cart cart' := by
  have hutf8 : cart.hashText.toUTF8 = cart'.hashText.toUTF8 ↔ cart.hashText = cart'.hashText :=
    String.toByteArray_inj
  have hhash : cart.hash md5 = cart'.hash md5 ↔ cart.hashText.toUTF8 = cart'.hashText.toUTF8 :=
    ⟨hmd5, congrArg md5⟩
  rw [hhash, hutf8]
  exact hashText_eq_iff cart cart'

/-- The hash of a cart is the same for the cart rearranged, and tells the contents, exactly if the
rearranged cart keeps the order of the items of one product and the writing of their counts. Equal
hashes leave open only where measurements are absent. -/
theorem hash_contents_iff :
    (((Rearranged cart cart' → cart.hash md5 = cart'.hash md5) ∧
        (cart.hash md5 = cart'.hash md5 → SameContents cart cart')) ↔
      (Rearranged cart cart' → SameWithinProducts cart cart')) ∧
    (cart.hash md5 = cart'.hash md5 →
      (SameMeasurements cart cart' ↔ AbsentAlike cart cart')) := by
  have hhash := hash_eq_iff hmd5
  refine ⟨?_, fun h ↦ (hhash.mp h).sameMeasurements_iff⟩
  constructor
  · rintro ⟨hinvariant, -⟩ hrearranged
    have hcontents := hhash.mp (hinvariant hrearranged)
    exact (map_hashed_sortedItems_iff hrearranged.map_productId_sortedItems).mp hcontents.2
  · intro hwithin
    refine ⟨fun hrearranged ↦ hhash.mpr ⟨congrArg m hrearranged.1, ?_⟩, hhash.mp⟩
    exact (map_hashed_sortedItems_iff hrearranged.map_productId_sortedItems).mpr
      (hwithin hrearranged)

end

/-! ### Two carts of one content -/

/-- A cart of items of one product, with these counts and no measurements. -/
def oneProduct (counts : List Number) : Cart where
  items := counts.map fun count ↦ ⟨"sku", ⟨.finite count⟩, none⟩
  measurements := none

/-- Two portions of the product. -/
def portions (first second : ℕ) : Cart := oneProduct [⟨false, first, 0⟩, ⟨false, second, 0⟩]

example : (oneProduct [⟨false, 1, 0⟩, ⟨false, 20, -1⟩]).hashText =
    "0:0:0:0:0:0:0:0:1:0:0:0:0:2.0" := by decide +kernel

/-- The digests of the texts of the portions in either order. -/
def md5OfPortions (bytes : ByteArray) : String :=
  if bytes.data.toList = "0:0:0:0:0:0:0:0:1:0:0:0:0:2".toUTF8.data.toList then
    "4f36b29093001d31d78dfad09bd38df9"
  else "80164d6dd8ee1c282dc090dd2e33ea6d"

theorem hash_contents_iff_witness :
    (((Rearranged (portions 1 2) (portions 2 1) →
          (portions 1 2).hash md5OfPortions = (portions 2 1).hash md5OfPortions) ∧
        ((portions 1 2).hash md5OfPortions = (portions 2 1).hash md5OfPortions →
          SameContents (portions 1 2) (portions 2 1))) ↔
      (Rearranged (portions 1 2) (portions 2 1) →
        SameWithinProducts (portions 1 2) (portions 2 1))) ∧
    ((portions 1 2).hash md5OfPortions = (portions 2 1).hash md5OfPortions →
      (SameMeasurements (portions 1 2) (portions 2 1) ↔
        AbsentAlike (portions 1 2) (portions 2 1))) :=
  hash_contents_iff fun h ↦ absurd h (by decide +kernel)

/-- Two portions of a product in the other order, and one portion counted `1` and `1.0`. -/
theorem hash_depends_on_order_and_writing :
    Rearranged (portions 1 2) (portions 2 1) ∧
      Rearranged (oneProduct [⟨false, 1, 0⟩]) (oneProduct [⟨false, 10, -1⟩]) ∧
      ¬ ∃ md5 : ByteArray → String, Function.Injective md5 ∧
        ((portions 1 2).hash md5 = (portions 2 1).hash md5 ∨
          (oneProduct [⟨false, 1, 0⟩]).hash md5 = (oneProduct [⟨false, 10, -1⟩]).hash md5) := by
  refine ⟨?_, ?_, ?_⟩
  · refine ⟨rfl, _, List.Perm.swap _ _ _, ?_⟩
    exact .cons ⟨rfl, rfl, rfl⟩ (.cons ⟨rfl, rfl, rfl⟩ .nil)
  · refine ⟨rfl, _, List.Perm.refl _, .cons ⟨rfl, rfl, ?_⟩ .nil⟩
    change (⟨false, 1, 0⟩ : Number).value = (⟨false, 10, -1⟩ : Number).value
    decide +kernel
  · rintro ⟨md5, hmd5, h | h⟩
    · exact absurd ((hash_eq_iff fun htexts ↦ hmd5 htexts).mp h).2 (by decide +kernel)
    · exact absurd ((hash_eq_iff fun htexts ↦ hmd5 htexts).mp h).2 (by decide +kernel)

end Cart

end YandexPay.Entities
