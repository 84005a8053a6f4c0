import YandexPay.CheckoutForm.Shippings
import Mathlib.Data.Prod.Lex

/-!
# Slots and their order

Two options with a time share a slot if `inSameTime` says so of both ends. It compares the minute of
one time with the day of the other, so that an option whose time does not begin and end at midnight
does not even share a slot with itself. `slotsConsistent_iff` says for which options the relation is
an equivalence and the order of `sortOptions` a preorder that leads to one sequence of slots.
-/

set_option autoImplicit false
set_option relaxedAutoImplicit false

namespace YandexPay.CheckoutForm

open JsDate

section

variable (tz : TimeZone)

/-! ### What is asked -/

/-- The comparison does not put the first option after the second. -/
def NotAfter (a b : WithDateOption) : Prop := (sortOptions tz a.1 b.1).sign ≠ 1

def SameSlot (a b : WithDateOption) : Prop := inSameSlot tz a.1 b.1 = true

/-- Among some options the slots partition them, the comparison is antisymmetric in its sign and
transitive, and two sorted lists of the same options have the same slots one by one. -/
structure SlotsConsistent (S : Set WithDateOption) : Prop where
  slots : Equivalence fun a b : S ↦ SameSlot tz a.1 b.1
  antisymm : ∀ a ∈ S, ∀ b ∈ S, (sortOptions tz a.1 b.1).sign = -(sortOptions tz b.1 a.1).sign
  trans : ∀ a ∈ S, ∀ b ∈ S, ∀ c ∈ S, NotAfter tz a b → NotAfter tz b c → NotAfter tz a c
  order : ∀ l s s' : List WithDateOption, (∀ a ∈ l, a ∈ S) → s.Perm l → s'.Perm l →
    s.Pairwise (NotAfter tz) → s'.Pairwise (NotAfter tz) → List.Forall₂ (SameSlot tz) s s'

/-- The minute is the first one of its day. -/
def Midnight (time : JsNumber) : Prop :=
  ∃ n, getPureTimeOfTimestamp tz time = some n ∧ getPureDateOfTimestamp tz time = some n

/-- The dates are valid, the times begin and end at midnight, and no amount that is no number
stands in a slot beside amounts that differ. -/
structure SlotsClear (S : Set WithDateOption) : Prop where
  days : ∀ a ∈ S, (getPureDateOfTimestamp tz a.1.timestamp).isSome
  times : ∀ a ∈ S, ∀ time ∈ a.1.time, Midnight tz time.start ∧ Midnight tz time.stop
  prices : ∀ a ∈ S, ∀ b ∈ S, ∀ c ∈ S, a.1.time.isSome → SameSlot tz a b → SameSlot tz a c →
    a.1.price = .nan → b.1.price.less c.1.price = false

/-! ### A key for the slots -/

def day (a : WithDateOption) : ℤ := (getPureDateOfTimestamp tz a.1.timestamp).getD 0

def minute (time : JsNumber) : ℤ := (getPureTimeOfTimestamp tz time).getD 0

/-- The slot of an option, ordered as the comparison orders it: options without a time first, by
their days, the others by day, begin and end. -/
def slot (a : WithDateOption) : Bool ×ₗ ℤ ×ₗ ℤ ×ₗ ℤ :=
  toLex (a.1.time.isSome, toLex (day tz a, toLex (a.1.time.elim 0 fun time ↦ minute tz time.start,
    a.1.time.elim 0 fun time ↦ minute tz time.stop)))

variable {tz}

theorem hasDateAndTime_eq (a : WithDateOption) : hasDateAndTime a.1 = a.1.time := if_pos a.2

/-- A date of whole seconds is given by its timestamp. -/
theorem number_bind {date : Date} {shown : ℤ → LocalTime} {n : ℤ}
    (h : toUnixTimestamp (date.bind fun ms ↦ tz.newDate (shown ms)) = some n) :
    number (date.bind fun ms ↦ tz.newDate (shown ms)) = .finite (1000 * n) := by
  obtain ⟨ms, hms, rfl⟩ := Option.map_eq_some_iff.mp h
  obtain ⟨start, -, hnew⟩ := Option.bind_eq_some_iff.mp hms
  obtain ⟨k, rfl⟩ := TimeZone.whole_newDate hnew
  rw [hms, Int.mul_ediv_cancel_left k (by decide)]
  change JsNumber.finite ((1000 * k : ℤ) : ℚ) = _
  push_cast
  rfl

theorem sign_sub_seconds (m n : ℤ) :
    (JsNumber.finite (1000 * m) - JsNumber.finite (1000 * n)).sign = 1 ↔ n < m := by
  rw [JsNumber.sign_sub_eq_one_iff, JsNumber.less, decide_eq_true_eq,
    mul_lt_mul_iff_right₀ (by norm_num), Int.cast_lt]

theorem sameTimestamp_iff {a b : ℤ} : sameTimestamp (some a) (some b) = true ↔ a = b := by
  simp [sameTimestamp]

theorem inSameTime_iff {time1 time2 : JsNumber} (h1 : Midnight tz time1) (h2 : Midnight tz time2) :
    inSameTime tz time1 time2 = true ↔ minute tz time1 = minute tz time2 := by
  obtain ⟨m, hm, -⟩ := h1
  obtain ⟨n, hn, hday⟩ := h2
  rw [inSameTime, minute, minute, hm, hn, hday, sameTimestamp_iff, Option.getD_some,
    Option.getD_some]

theorem Midnight.number_eq {time : JsNumber} (h : Midnight tz time) :
    number (getPureTime tz (fromUnixTimestamp time)) = .finite (1000 * minute tz time) := by
  obtain ⟨n, hn, -⟩ := h
  rw [minute, hn]
  exact number_bind hn

/-! ### Clear slots -/

section

variable {S : Set WithDateOption} (h : SlotsClear tz S)

include h

theorem SlotsClear.day_eq {a : WithDateOption} (ha : a ∈ S) :
    getPureDateOfTimestamp tz a.1.timestamp = some (day tz a) := by
  obtain ⟨n, hn⟩ := Option.isSome_iff_exists.mp (h.days a ha)
  rw [day, hn, Option.getD_some]

theorem SlotsClear.number_eq {a : WithDateOption} (ha : a ∈ S) :
    number (getPureDate tz (fromUnixTimestamp a.1.timestamp)) = .finite (1000 * day tz a) :=
  number_bind (h.day_eq ha)

theorem SlotsClear.inSameDay_iff {a b : WithDateOption} (ha : a ∈ S) (hb : b ∈ S) :
    inSameDay tz a.1 b.1 = true ↔ day tz a = day tz b := by
  rw [inSameDay, h.day_eq ha, h.day_eq hb, sameTimestamp_iff]

theorem SlotsClear.sameSlot_iff {a b : WithDateOption} (ha : a ∈ S) (hb : b ∈ S) :
    SameSlot tz a b ↔ slot tz a = slot tz b := by
  have htimeA := h.times a ha
  have htimeB := h.times b hb
  have hday := h.inSameDay_iff ha hb
  rw [SameSlot, inSameSlot, hasDateAndTime_eq, hasDateAndTime_eq, slot, slot]
  cases hA : a.1.time with
  | none =>
    cases hB : b.1.time with
    | none => simp [hday, a.2, b.2]
    | some timeB => simp
  | some timeA =>
    cases hB : b.1.time with
    | none => simp
    | some timeB =>
      obtain ⟨hstartA, hstopA⟩ := htimeA timeA hA
      obtain ⟨hstartB, hstopB⟩ := htimeB timeB hB
      simp [hday, inSameTime_iff hstartA hstartB, inSameTime_iff hstopA hstopB, and_assoc]

/-- The comparison puts an option after another one if its slot is later, or its price higher in
one slot with a time. -/
theorem SlotsClear.sign_eq_one_iff {a b : WithDateOption} (ha : a ∈ S) (hb : b ∈ S) :
    (sortOptions tz a.1 b.1).sign = 1 ↔ slot tz b < slot tz a ∨
      slot tz a = slot tz b ∧ a.1.time.isSome ∧ b.1.price.less a.1.price = true := by
  have htimeA := h.times a ha
  have htimeB := h.times b hb
  have hday := h.inSameDay_iff ha hb
  have hslot := h.sameSlot_iff ha hb
  rw [sortOptions, h.number_eq ha, h.number_eq hb]
  cases hA : a.1.time with
  | none =>
    cases hB : b.1.time with
    | none =>
      simp only [sign_sub_seconds]
      simp [slot, hA, hB, Prod.Lex.toLex_lt_toLex]
    | some timeB =>
      have hsign : (JsNumber.finite (-1)).sign = -1 := by decide +kernel
      simp only [hsign]
      simp [slot, hA, hB, Prod.Lex.toLex_lt_toLex]
  | some timeA =>
    cases hB : b.1.time with
    | none =>
      have hsign : (1 : JsNumber).sign = 1 := by decide +kernel
      simp only [hsign]
      simp [slot, hA, hB, Prod.Lex.toLex_lt_toLex]
    | some timeB =>
      obtain ⟨hstartA, hstopA⟩ := htimeA timeA hA
      obtain ⟨hstartB, hstopB⟩ := htimeB timeB hB
      have hlt : slot tz b < slot tz a ↔ day tz b < day tz a ∨ day tz b = day tz a ∧
          (minute tz timeB.start < minute tz timeA.start ∨
            minute tz timeB.start = minute tz timeA.start ∧
              minute tz timeB.stop < minute tz timeA.stop) := by
        simp [slot, hA, hB, Prod.Lex.toLex_lt_toLex]
      have heq : slot tz a = slot tz b ↔ day tz a = day tz b ∧
          minute tz timeA.start = minute tz timeB.start ∧
            minute tz timeA.stop = minute tz timeB.stop := by
        simp [slot, hA, hB]
      rw [SameSlot, heq] at hslot
      simp only [hstopA.number_eq, hstopB.number_eq, hstartA.number_eq, hstartB.number_eq, hslot,
        hday, inSameTime_iff hstartA hstartB, hlt, heq]
      split_ifs with hsame hstart hsameDay
      · rw [JsNumber.sign_sub_eq_one_iff]
        simp [hsame]
      · rw [sign_sub_seconds]
        omega
      · rw [sign_sub_seconds]
        omega
      · rw [sign_sub_seconds]
        omega

theorem SlotsClear.notAfter_iff {a b : WithDateOption} (ha : a ∈ S) (hb : b ∈ S) :
    NotAfter tz a b ↔ slot tz a ≤ slot tz b ∧
      (slot tz a = slot tz b → a.1.time.isSome → b.1.price.less a.1.price = false) := by
  rw [NotAfter, Ne, h.sign_eq_one_iff ha hb, not_or, not_lt, not_and, not_and, Bool.not_eq_true]

theorem SlotsClear.antisymm {a b : WithDateOption} (ha : a ∈ S) (hb : b ∈ S) :
    (sortOptions tz a.1 b.1).sign = -(sortOptions tz b.1 a.1).sign := by
  have hday : inSameDay tz b.1 a.1 = inSameDay tz a.1 b.1 := by
    rw [Bool.eq_iff_iff, h.inSameDay_iff ha hb, h.inSameDay_iff hb ha, eq_comm]
  have hslot : inSameSlot tz b.1 a.1 = inSameSlot tz a.1 b.1 :=
    Bool.eq_iff_iff.mpr ((h.sameSlot_iff hb ha).trans
      (eq_comm.trans (h.sameSlot_iff ha hb).symm))
  have htimeA := h.times a ha
  have htimeB := h.times b hb
  have hone : (JsNumber.finite (-1)).sign = -(1 : JsNumber).sign := by decide +kernel
  unfold sortOptions
  cases hA : a.1.time with
  | none =>
    cases hB : b.1.time with
    | none => exact JsNumber.sign_sub_swap _ _
    | some timeB => exact hone
  | some timeA =>
    cases hB : b.1.time with
    | none => exact neg_eq_iff_eq_neg.mp hone.symm
    | some timeB =>
      have hstart : inSameTime tz timeB.start timeA.start =
          inSameTime tz timeA.start timeB.start := by
        rw [Bool.eq_iff_iff, inSameTime_iff (htimeA timeA hA).1 (htimeB timeB hB).1,
          inSameTime_iff (htimeB timeB hB).1 (htimeA timeA hA).1, eq_comm]
      simp only [hslot, hday, hstart]
      split_ifs <;> exact JsNumber.sign_sub_swap _ _

theorem SlotsClear.trans {a b c : WithDateOption} (ha : a ∈ S) (hb : b ∈ S) (hc : c ∈ S)
    (hab : NotAfter tz a b) (hbc : NotAfter tz b c) : NotAfter tz a c := by
  rw [h.notAfter_iff ha hb] at hab
  rw [h.notAfter_iff hb hc] at hbc
  rw [h.notAfter_iff ha hc]
  refine ⟨hab.1.trans hbc.1, fun hslot htime ↦ ?_⟩
  have heqAB : slot tz a = slot tz b := le_antisymm hab.1 (hslot ▸ hbc.1)
  have heqBC : slot tz b = slot tz c := heqAB.symm.trans hslot
  have htimeB : b.1.time.isSome := (congrArg (fun s ↦ (ofLex s).1) heqAB).symm.trans htime
  have hless := JsNumber.not_less_trans (x := a.1.price) (y := b.1.price) (z := c.1.price)
  by_cases hnanB : b.1.price = .nan
  · exact h.prices b hb c hc a ha htimeB ((h.sameSlot_iff hb hc).mpr heqBC)
      ((h.sameSlot_iff hb ha).mpr heqAB.symm) hnanB
  · by_cases hnanA : a.1.price = .nan
    · exact h.prices a ha c hc a ha htime ((h.sameSlot_iff ha hc).mpr hslot)
        ((h.sameSlot_iff ha ha).mpr rfl) hnanA
    · by_cases hnanC : c.1.price = .nan
      · rw [hnanC]
        rfl
      · exact hless hnanA hnanB hnanC (hab.2 heqAB htime) (hbc.2 heqBC htimeB)

/-- Sorted lists of the same options have the same slots. -/
theorem SlotsClear.order {s s' : List WithDateOption} (hs : ∀ a ∈ s, a ∈ S) (hperm : s.Perm s')
    (hsorted : s.Pairwise (NotAfter tz)) (hsorted' : s'.Pairwise (NotAfter tz)) :
    List.Forall₂ (SameSlot tz) s s' := by
  have hs' : ∀ a ∈ s', a ∈ S := fun a ha ↦ hs a (hperm.mem_iff.mpr ha)
  have hslots : ∀ {l : List WithDateOption}, (∀ a ∈ l, a ∈ S) → l.Pairwise (NotAfter tz) →
      (l.map (slot tz)).Pairwise (· ≤ ·) := by
    intro l hl hpairwise
    rw [List.pairwise_map]
    exact hpairwise.imp_of_mem fun ha hb hab ↦ ((h.notAfter_iff (hl _ ha) (hl _ hb)).mp hab).1
  have heq : s.map (slot tz) = s'.map (slot tz) :=
    List.Perm.eq_of_pairwise (fun _ _ _ _ ↦ le_antisymm) (hslots hs hsorted)
      (hslots hs' hsorted') (hperm.map _)
  rw [List.forall₂_iff_get]
  refine ⟨hperm.length_eq, fun i hi hi' ↦ ?_⟩
  rw [h.sameSlot_iff (hs _ (List.get_mem _ _)) (hs' _ (List.get_mem _ _))]
  have hget := congrArg (fun l ↦ l[i]?) heq
  simp only [List.getElem?_map] at hget
  rw [List.getElem?_eq_getElem hi, List.getElem?_eq_getElem hi'] at hget
  exact Option.some.inj hget

end

/-! ### When the slots are consistent -/

variable {S : Set WithDateOption}

theorem SlotsClear.consistent (h : SlotsClear tz S) : SlotsConsistent tz S where
  slots :=
    { refl := fun a ↦ (h.sameSlot_iff a.2 a.2).mpr rfl
      symm := fun {a b} hab ↦ (h.sameSlot_iff b.2 a.2).mpr ((h.sameSlot_iff a.2 b.2).mp hab).symm
      trans := fun {a b c} hab hbc ↦ (h.sameSlot_iff a.2 c.2).mpr
        (((h.sameSlot_iff a.2 b.2).mp hab).trans ((h.sameSlot_iff b.2 c.2).mp hbc)) }
  antisymm _ ha _ hb := h.antisymm ha hb
  trans _ ha _ hb _ hc := h.trans ha hb hc
  order _ _ _ hl hs hs' := h.order (fun a ha ↦ hl a (hs.mem_iff.mp ha)) (hs.trans hs'.symm)

theorem sameTimestamp_eq_true {a b : Option ℤ} (h : sameTimestamp a b = true) :
    ∃ n, a = some n ∧ b = some n := by
  unfold sameTimestamp at h
  rw [Bool.and_eq_true, decide_eq_true_eq] at h
  obtain ⟨n, hn⟩ := Option.isSome_iff_exists.mp h.1
  exact ⟨n, hn, h.2 ▸ hn⟩

theorem inSameDay_of_sameSlot {a b : WithDateOption} (h : SameSlot tz a b) :
    inSameDay tz a.1 b.1 = true := by
  rw [SameSlot, inSameSlot] at h
  split at h
  · rw [Bool.and_eq_true, Bool.and_eq_true] at h
    exact h.1.1
  · rw [Bool.and_eq_true] at h
    exact h.2

theorem inSameTime_of_sameSlot {a : WithDateOption} {time : TimeRange}
    (htime : a.1.time = some time) (h : SameSlot tz a a) :
    inSameTime tz time.start time.start = true ∧ inSameTime tz time.stop time.stop = true := by
  rw [SameSlot, inSameSlot, hasDateAndTime_eq, htime] at h
  simp only [Bool.and_eq_true] at h
  exact ⟨h.1.2, h.2⟩

theorem isSome_of_sameSlot {a b : WithDateOption} (h : SameSlot tz a b)
    (ha : a.1.time.isSome) : b.1.time.isSome := by
  rw [SameSlot, inSameSlot, hasDateAndTime_eq, hasDateAndTime_eq] at h
  obtain ⟨time, htime⟩ := Option.isSome_iff_exists.mp ha
  cases hb : b.1.time with
  | none => simp [htime, hb] at h
  | some timeB => rfl

theorem sign_sortOptions_of_sameSlot {a b : WithDateOption} (h : SameSlot tz a b)
    (ha : a.1.time.isSome) :
    (sortOptions tz a.1 b.1).sign = (a.1.price - b.1.price).sign := by
  obtain ⟨timeA, hA⟩ := Option.isSome_iff_exists.mp ha
  obtain ⟨timeB, hB⟩ := Option.isSome_iff_exists.mp (isSome_of_sameSlot h ha)
  rw [SameSlot] at h
  simp only [sortOptions, hA, hB, if_pos h]

theorem SlotsConsistent.clear (h : SlotsConsistent tz S) : SlotsClear tz S := by
  have hrefl : ∀ a ∈ S, SameSlot tz a a := fun a ha ↦ h.slots.refl ⟨a, ha⟩
  refine ⟨fun a ha ↦ ?_, fun a ha time htime ↦ ?_, fun a ha b hb c hc htime hab hac hnan ↦ ?_⟩
  · obtain ⟨n, hn, -⟩ := sameTimestamp_eq_true (inSameDay_of_sameSlot (hrefl a ha))
    rw [hn]
    rfl
  · obtain ⟨hstart, hstop⟩ := inSameTime_of_sameSlot htime (hrefl a ha)
    exact ⟨sameTimestamp_eq_true hstart, sameTimestamp_eq_true hstop⟩
  · have hca : SameSlot tz c a := h.slots.symm (x := ⟨a, ha⟩) (y := ⟨c, hc⟩) hac
    have hcb : SameSlot tz c b := h.slots.trans (x := ⟨c, hc⟩) (y := ⟨a, ha⟩) (z := ⟨b, hb⟩) hca hab
    have htimeC := isSome_of_sameSlot hac htime
    have hafter : NotAfter tz c b := by
      apply h.trans c hc a ha b hb
      · rw [NotAfter, sign_sortOptions_of_sameSlot hca htimeC, hnan, Ne,
          JsNumber.sign_sub_eq_one_iff]
        simp [JsNumber.less]
      · rw [NotAfter, sign_sortOptions_of_sameSlot hab htime, hnan, Ne,
          JsNumber.sign_sub_eq_one_iff]
        cases b.1.price <;> simp [JsNumber.less]
    rw [NotAfter, sign_sortOptions_of_sameSlot hcb htimeC, Ne, JsNumber.sign_sub_eq_one_iff,
      Bool.not_eq_true] at hafter
    exact hafter

/-- The slots and the order of some options with a date are consistent exactly if the dates are
valid, the times begin and end at midnight, and no amount that is no number stands in a slot beside
amounts that differ. -/
theorem slotsConsistent_iff (tz : TimeZone) (S : Set WithDateOption) :
    SlotsConsistent tz S ↔ SlotsClear tz S :=
  ⟨fun h ↦ h.clear, fun h ↦ h.consistent⟩

end

/-! ### An option that shares no slot with itself -/

/-- A delivery on the second of January from ten to twelve. -/
def forenoonOption : WithDateOption :=
  ⟨⟨"forenoon", .courier, "100.00", some .standart, some (.finite 86400),
    some ⟨.finite 122400, .finite 129600⟩⟩, by decide +kernel⟩

theorem slots_not_consistent :
    ¬ SameSlot januaryUtc forenoonOption forenoonOption ∧
      ¬ SlotsConsistent januaryUtc Set.univ := by
  have hself : ¬ SameSlot januaryUtc forenoonOption forenoonOption := by
    rw [SameSlot]
    decide +kernel
  exact ⟨hself, fun h ↦ hself (h.slots.refl ⟨forenoonOption, Set.mem_univ _⟩)⟩

end YandexPay.CheckoutForm
