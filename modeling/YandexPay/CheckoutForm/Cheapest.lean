import YandexPay.CheckoutForm.Shippings
import YandexPay.Library.Decimal
import YandexPay.Library.Delimited

/-!
# The options that are offered

`prepareOptions` keeps every express option and the cheapest option of each slot of the others. The
slots are told apart by texts, which write the timestamps of the day, or of the begin and the end:
`text_injective` says that no two slots have one text. `prepareOptions_keeps` is what is offered,
whatever the sort makes of it, and `selectsSafely_iff` says when the option that is selected at
first can be found among them.
-/

set_option autoImplicit false
set_option relaxedAutoImplicit false

namespace YandexPay.CheckoutForm

open JsDate

/-! ### Slots and their texts -/

/-- A slot: the day, or the minutes of the begin and the end; what is invalid has none. -/
inductive Slot
  | wholeDay (date : Option ℤ)
  | range (start stop : Option ℤ)
  deriving DecidableEq

namespace Slot

def text : Slot → String
  | .wholeDay date => timestampText date
  | .range start stop => timestampText start ++ "-" ++ timestampText stop

/-- Behind its first character the text of a timestamp has no hyphen. -/
theorem exists_toList_timestampText (timestamp : Option ℤ) :
    ∃ c cs, (timestampText timestamp).toList = c :: cs ∧ '-' ∉ cs := by
  cases timestamp with
  | none => exact ⟨'N', ['a', 'N'], by decide, by decide⟩
  | some n =>
    obtain ⟨c, cs, htext, hdigits⟩ := Decimal.exists_digits_of_int n
    exact ⟨c, cs, htext, fun hmem ↦ absurd (hdigits '-' hmem) (by decide)⟩

theorem timestampText_injective {a b : Option ℤ} (h : timestampText a = timestampText b) :
    a = b := by
  have hnan : ∀ n : ℤ, timestampText (some n) ≠ "NaN" := by
    intro n heq
    have hmem : 'N' ∈ (toString n).toList := by
      rw [show toString n = "NaN" from heq]
      decide
    rcases Decimal.eq_minus_or_isDigit_of_mem_int hmem with hc | hc
    · exact absurd hc (by decide)
    · exact absurd hc (by decide)
  cases a with
  | none =>
    cases b with
    | none => rfl
    | some n => exact absurd h.symm (hnan n)
  | some m =>
    cases b with
    | none => exact absurd h (hnan m)
    | some n => exact congrArg some (Decimal.int_toString_injective (congrArg String.toList h))

theorem toList_text_range (start stop : Option ℤ) :
    (text (.range start stop)).toList =
      (timestampText start).toList ++ '-' :: (timestampText stop).toList := by
  rw [text, String.toList_append, String.toList_append, List.append_assoc]
  rfl

/-- The text of a range has a hyphen behind its first character, that of a day has none. -/
theorem text_range_ne_wholeDay (start stop date : Option ℤ) :
    text (.range start stop) ≠ text (.wholeDay date) := by
  intro h
  obtain ⟨c, cs, hstart, -⟩ := exists_toList_timestampText start
  obtain ⟨d, ds, hdate, hhyphen⟩ := exists_toList_timestampText date
  have hlist := congrArg String.toList h
  rw [toList_text_range, hstart, text, hdate, List.cons_append, List.cons.injEq] at hlist
  apply hhyphen
  rw [← hlist.2]
  simp

theorem text_injective {s t : Slot} (h : s.text = t.text) : s = t := by
  cases s with
  | wholeDay date =>
    cases t with
    | wholeDay date' => rw [timestampText_injective h]
    | range start stop => exact absurd h.symm (text_range_ne_wholeDay start stop date)
  | range start stop =>
    cases t with
    | wholeDay date' => exact absurd h (text_range_ne_wholeDay start stop date')
    | range start' stop' =>
      obtain ⟨c, cs, hstart, hcs⟩ := exists_toList_timestampText start
      obtain ⟨d, ds, hstart', hds⟩ := exists_toList_timestampText start'
      have hlist := congrArg String.toList h
      rw [toList_text_range, toList_text_range, hstart, hstart', List.cons_append,
        List.cons_append, List.cons.injEq] at hlist
      have hcut := congrArg (Delimited.cutAt '-') hlist.2
      rw [Delimited.cutAt_of_notMem hcs, Delimited.cutAt_of_notMem hds, Prod.mk.injEq] at hcut
      have hbegin : timestampText start = timestampText start' := by
        rw [← String.toList_inj, hstart, hstart', hlist.1, hcut.1]
      rw [timestampText_injective hbegin, timestampText_injective (String.toList_inj.mp hcut.2)]

end Slot

section

variable (tz : TimeZone)

def slotOf (option : ShippingOption) : Slot :=
  match hasDateAndTime option with
  | some time =>
    .range (getPureTimeOfTimestamp tz time.start) (getPureTimeOfTimestamp tz time.stop)
  | none => .wholeDay (getPureDateOfTimestamp tz option.timestamp)

theorem slotKey_eq (option : ShippingOption) : slotKey tz option = (slotOf tz option).text := by
  unfold slotKey slotOf
  cases hasDateAndTime option <;> rfl

theorem slotKey_eq_iff {a b : ShippingOption} :
    slotKey tz a = slotKey tz b ↔ slotOf tz a = slotOf tz b := by
  rw [slotKey_eq, slotKey_eq]
  exact ⟨Slot.text_injective, congrArg Slot.text⟩

/-! ### The cheapest options -/

/-- One option of each slot, none of which is cheaper. -/
structure CheapestOf (options cheapest : List ShippingOption) : Prop where
  mem : cheapest ⊆ options
  apart : (cheapest.map (slotOf tz)).Nodup
  slots : ∀ option ∈ options, ∃ chosen ∈ cheapest, slotOf tz chosen = slotOf tz option
  least : ∀ chosen ∈ cheapest, ∀ option ∈ options, slotOf tz option = slotOf tz chosen →
    isCheaper option chosen = false

theorem keepCheaper_eq : keepCheaper tz = Dict.keepBest (slotKey tz) isCheaper := by
  funext acc curr
  unfold keepCheaper Dict.keepBest
  cases acc.get? (slotKey tz curr) <;> rfl

theorem cheapestOf_filterCheapest (options : List ShippingOption) :
    CheapestOf tz options (filterCheapest tz options) := by
  have hbest : Dict.Best (slotKey tz) isCheaper options
      (options.foldl (Dict.keepBest (slotKey tz) isCheaper) Dict.empty) := by
    apply Dict.best_foldl_keepBest
    · exact fun option ↦ JsNumber.less_self option.price
    · exact fun _ _ _ ↦ JsNumber.less_trans
  rw [← keepCheaper_eq] at hbest
  unfold filterCheapest
  generalize options.foldl (keepCheaper tz) Dict.empty = acc at hbest
  constructor
  · intro option hmem
    obtain ⟨p, hp, rfl⟩ := List.mem_map.mp hmem
    exact (hbest.mem p hp).1
  · have hkeys : acc.items.map Prod.fst =
        ((acc.items.map Prod.snd).map (slotOf tz)).map Slot.text := by
      rw [List.map_map, List.map_map]
      refine List.map_congr_left fun p hp ↦ ?_
      rw [(hbest.mem p hp).2, slotKey_eq]
      rfl
    exact List.Nodup.of_map Slot.text (hkeys ▸ acc.nodup)
  · intro option hmem
    obtain ⟨p, hp, hkey⟩ := List.mem_map.mp (hbest.all option hmem)
    refine ⟨p.2, List.mem_map_of_mem (f := Prod.snd) hp, (slotKey_eq_iff tz).mp ?_⟩
    rw [← (hbest.mem p hp).2, hkey]
  · intro chosen hchosen option hmem hslot
    obtain ⟨p, hp, rfl⟩ := List.mem_map.mp hchosen
    apply hbest.best p hp option hmem
    rw [(hbest.mem p hp).2, slotKey_eq_iff, hslot]

/-! ### What is offered -/

variable (sorting : ArraySort)

/-- The options with a date that are no express options. -/
def others (options : List ShippingOption) : List ShippingOption :=
  (options.filter hasDate).filter isNotYandexExpress

theorem filter_isYandexExpress (options : List ShippingOption) :
    (options.filter hasDate).filter isYandexExpress = options.filter isYandexExpress := by
  rw [List.filter_filter]
  refine List.filter_congr fun option _ ↦ ?_
  unfold isYandexExpress
  cases hasDate option <;> simp

/-- Every express option is offered, with the cheapest option of each slot of the others, and
nothing else. -/
theorem prepareOptions_keeps (options : List ShippingOption) :
    ∃ cheapest, CheapestOf tz (others options) cheapest ∧
      (prepareOptions tz sorting options).Perm
        (options.filter isYandexExpress ++ cheapest) := by
  refine ⟨filterCheapest tz (others options), cheapestOf_filterCheapest tz _, ?_⟩
  rw [← filter_isYandexExpress]
  exact (sorting.perm _ _).append (sorting.perm _ _)

theorem mem_of_mem_prepareOptions {options : List ShippingOption} {option : ShippingOption}
    (h : option ∈ prepareOptions tz sorting options) :
    option ∈ options ∧ hasDate option = true := by
  rcases List.mem_append.mp h with h | h
  · have hexpress := (sorting.perm _ _).mem_iff.mp h
    exact List.mem_filter.mp (List.mem_filter.mp hexpress).1
  · have hother := (cheapestOf_filterCheapest tz _).mem ((sorting.perm _ _).mem_iff.mp h)
    exact List.mem_filter.mp (List.mem_filter.mp hother).1

/-- Something is offered if an option has a date. -/
theorem prepareOptions_ne_nil {options : List ShippingOption} {option : ShippingOption}
    (hmem : option ∈ options) (hdate : hasDate option = true) :
    prepareOptions tz sorting options ≠ [] := by
  have hdated := List.mem_filter.mpr ⟨hmem, hdate⟩
  cases hexpress : isYandexExpress option with
  | true =>
    apply List.ne_nil_of_mem (a := option)
    exact List.mem_append_left _ ((sorting.perm _ _).mem_iff.mpr
      (List.mem_filter.mpr ⟨hdated, hexpress⟩))
  | false =>
    have hother : option ∈ (options.filter hasDate).filter isNotYandexExpress :=
      List.mem_filter.mpr ⟨hdated, by rw [isNotYandexExpress, hexpress, Bool.not_false]⟩
    obtain ⟨chosen, hchosen, -⟩ := (cheapestOf_filterCheapest tz _).slots option hother
    apply List.ne_nil_of_mem (a := chosen)
    exact List.mem_append_right _ ((sorting.perm _ _).mem_iff.mpr hchosen)

/-! ### The option that is selected at first -/

/-- An option of the list is selected, or none. -/
def SelectsSafely (selectId : String) (options : List ShippingOption) : Prop :=
  ∃ id, getOptionIdToSelect tz sorting selectId options = some id ∧
    (id = "" ∨ ∃ option ∈ options, option.id = id)

/-- A selection is safe exactly if the id is that of an option, or some option with a date is not
delivered by post, or none has a date. -/
theorem selectsSafely_iff (selectId : String) (options : List ShippingOption) :
    SelectsSafely tz sorting selectId options ↔
      (∃ option ∈ options, option.id = selectId) ∨
        (∃ option ∈ options, hasDate option ∧ option.provider ≠ .russianPost) ∨
          ∀ option ∈ options, ¬ hasDate option := by
  unfold SelectsSafely getOptionIdToSelect
  by_cases hselected : ∃ option ∈ options, option.id = selectId
  · have hany : (options.any fun option ↦ option.id = selectId) = true := by
      simpa [List.any_eq_true] using hselected
    rw [if_pos hany]
    exact iff_of_true ⟨selectId, rfl, Or.inr hselected⟩ (Or.inl hselected)
  · have hany : ¬ (options.any fun option ↦ option.id = selectId) = true := by
      simpa [List.any_eq_true] using hselected
    rw [if_neg hany]
    by_cases hdated : ∃ option ∈ options, hasDate option = true
    · rw [if_pos (List.any_eq_true.mpr hdated)]
      rw [or_iff_right hselected]
      constructor
      · rintro ⟨id, hid, -⟩
        obtain ⟨option, hhead, -⟩ := Option.map_eq_some_iff.mp hid
        obtain ⟨hmem, hdate⟩ := mem_of_mem_prepareOptions tz sorting (List.mem_of_head? hhead)
        rw [List.mem_filter, decide_eq_true_eq] at hmem
        exact Or.inl ⟨option, hmem.1, hdate, hmem.2⟩
      · rintro (⟨option, hmem, hdate, hpost⟩ | hnone)
        · have hkept : option ∈ options.filter fun option ↦ option.provider ≠ .russianPost :=
            List.mem_filter.mpr ⟨hmem, decide_eq_true hpost⟩
          have hfirst := List.head?_eq_some_head (prepareOptions_ne_nil tz sorting hkept hdate)
          have hoffered := (mem_of_mem_prepareOptions tz sorting (List.mem_of_head? hfirst)).1
          rw [hfirst]
          exact ⟨_, rfl, Or.inr ⟨_, (List.mem_filter.mp hoffered).1, rfl⟩⟩
        · obtain ⟨option, hmem, hdate⟩ := hdated
          exact absurd hdate (hnone option hmem)
    · rw [if_neg fun h ↦ hdated (List.any_eq_true.mp h)]
      have hnone : ∀ option ∈ options, ¬ hasDate option := fun option hmem hdate ↦
        hdated ⟨option, hmem, hdate⟩
      refine iff_of_true ⟨_, rfl, ?_⟩ (Or.inr (Or.inr hnone))
      cases hhead : (sorting.sort (fun a b ↦ a.price - b.price)
          (options.filter fun option ↦ option.provider ≠ .russianPost)).head? with
      | none => exact Or.inl rfl
      | some option =>
        have hmem := (sorting.perm _ _).mem_iff.mp (List.mem_of_head? hhead)
        exact Or.inr ⟨option, (List.mem_filter.mp hmem).1, rfl⟩

end

/-- The sort by insertion. -/
def insertionSort : ArraySort where
  sort compare options := options.insertionSort fun a b ↦ (compare a b).sign ≠ 1
  perm _ options := List.perm_insertionSort _ options

def postOption : ShippingOption :=
  ⟨"post", .russianPost, "100.00", some .standart, some (.finite 86400), none⟩

/-- A delivery by post is the only option, and it has a date. -/
theorem post_throws :
    getOptionIdToSelect januaryUtc insertionSort "" [postOption] = none ∧
      ¬ SelectsSafely januaryUtc insertionSort "" [postOption] := by
  have hthrows : getOptionIdToSelect januaryUtc insertionSort "" [postOption] = none := by
    decide +kernel
  refine ⟨hthrows, ?_⟩
  rintro ⟨id, hid, -⟩
  rw [hthrows] at hid
  cases hid

end YandexPay.CheckoutForm
