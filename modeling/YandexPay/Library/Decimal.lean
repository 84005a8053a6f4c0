import Mathlib.Data.Int.Notation
import Mathlib.Data.List.Basic

/-!
# Decimal text of integers

The text of an integer determines it, and an integer followed by a name that does not start with
a digit can be read off from the concatenation of the two.
-/

set_option autoImplicit false
set_option relaxedAutoImplicit false

namespace YandexPay.Decimal

theorem isDigit_of_mem_repr {m : ℕ} {d : Char} (hd : d ∈ (Nat.repr m).toList) :
    d.isDigit = true := by
  rw [Nat.toList_repr] at hd
  exact Nat.isDigit_of_mem_toDigits (by decide) (by decide) hd

theorem nat_repr_injective {m n : ℕ} (h : (Nat.repr m).toList = (Nat.repr n).toList) :
    m = n := by
  have hvalue := congrArg (fun l ↦ Nat.ofDigitChars 10 l 0) h
  simpa only [Nat.toList_repr, Nat.ofDigitChars_ten_toDigits] using hvalue

theorem toList_negSucc (m : ℕ) :
    (toString (Int.negSucc m)).toList = '-' :: (Nat.repr (m + 1)).toList := by
  change ("-" ++ Nat.repr (m + 1)).toList = _
  rw [String.toList_append]
  rfl

theorem eq_minus_or_isDigit_of_mem_int {n : ℤ} {c : Char} (hc : c ∈ (toString n).toList) :
    c = '-' ∨ c.isDigit = true := by
  cases n with
  | ofNat m => exact .inr (isDigit_of_mem_repr (m := m) hc)
  | negSucc m =>
    rw [toList_negSucc] at hc
    rcases List.mem_cons.mp hc with hsign | hdigit
    · exact .inl hsign
    · exact .inr (isDigit_of_mem_repr hdigit)

/-- After its first character the text of an integer consists of digits. -/
theorem exists_digits_of_int (n : ℤ) : ∃ c cs, (toString n).toList = c :: cs ∧
    ∀ d ∈ cs, d.isDigit = true := by
  cases n with
  | ofNat m =>
    have htext : (toString (Int.ofNat m)).toList = (Nat.repr m).toList := rfl
    cases hdigits : (Nat.repr m).toList with
    | nil =>
      rw [Nat.toList_repr] at hdigits
      exact absurd hdigits Nat.toDigits_ne_nil
    | cons c cs =>
      refine ⟨c, cs, by rw [htext, hdigits], fun d hd ↦ isDigit_of_mem_repr (m := m) ?_⟩
      rw [hdigits]
      exact List.mem_cons_of_mem _ hd
  | negSucc m =>
    exact ⟨'-', (Nat.repr (m + 1)).toList, toList_negSucc m, fun d hd ↦ isDigit_of_mem_repr hd⟩

/-- Two integers with one text are equal. -/
theorem int_toString_injective {a b : ℤ} (h : (toString a).toList = (toString b).toList) :
    a = b := by
  have hsign : ∀ k l : ℕ, (Nat.repr k).toList ≠ '-' :: (Nat.repr (l + 1)).toList := by
    intro k l hkl
    have hdigit : ('-' : Char).isDigit = true :=
      isDigit_of_mem_repr (m := k) (by rw [hkl]; exact List.mem_cons_self)
    exact absurd hdigit (by decide)
  cases a with
  | ofNat k =>
    cases b with
    | ofNat l => rw [nat_repr_injective (m := k) (n := l) h]
    | negSucc l =>
      rw [toList_negSucc] at h
      exact absurd h (hsign k l)
  | negSucc k =>
    cases b with
    | ofNat l =>
      rw [toList_negSucc] at h
      exact absurd h.symm (hsign l k)
    | negSucc l =>
      rw [toList_negSucc, toList_negSucc, List.cons.injEq] at h
      have hkl := nat_repr_injective h.2
      have hkl' : k = l := by omega
      rw [hkl']

/-- An integer and a name that does not start with a digit can be read off from their
concatenation. -/
theorem int_append_injective {a b : ℤ} {n m : List Char}
    (hn : ∀ c, n.head? = some c → c.isDigit = false)
    (hm : ∀ c, m.head? = some c → c.isDigit = false)
    (h : (toString a).toList ++ n = (toString b).toList ++ m) : a = b ∧ n = m := by
  have hprefix : ∀ {k l : ℤ} {x r y : List Char}, (∀ c, x.head? = some c → c.isDigit = false) →
      (toString l).toList = (toString k).toList ++ r → x = r ++ y → r = [] := by
    intro k l x r y hx hl hxr
    obtain ⟨c, cs, hk, -⟩ := exists_digits_of_int k
    obtain ⟨d, ds, hl', hdigits⟩ := exists_digits_of_int l
    rw [hl', hk, List.cons_append, List.cons.injEq] at hl
    cases r with
    | nil => rfl
    | cons e r =>
      have hdigit : e.isDigit = true := hdigits e (by rw [hl.2]; simp)
      have hnot := hx e (by rw [hxr]; rfl)
      rw [hdigit] at hnot
      cases hnot
  rcases List.append_eq_append_iff.mp h with ⟨r, hb, hnr⟩ | ⟨r, ha, hmr⟩
  · have hr := hprefix hn hb hnr
    subst hr
    rw [List.append_nil] at hb
    exact ⟨int_toString_injective hb.symm, hnr⟩
  · have hr := hprefix hm ha hmr
    subst hr
    rw [List.append_nil] at ha
    exact ⟨int_toString_injective ha, hmr.symm⟩

end YandexPay.Decimal
