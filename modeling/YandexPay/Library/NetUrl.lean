import YandexPay.Library.GoOutcome
import Mathlib.Data.List.Sort

/-!
# URLs and query strings

What Go's `net/url` does with the path and the query of a URL, on bytes. A query string is parsed
into values, pairs of a key and a value in their order; `encode` writes them sorted by key.
`parseQuery_encode` is the round trip, so a query that `encode` has written is written the same way
again (`encode_parseQuery_encode`).
-/

set_option autoImplicit false
set_option relaxedAutoImplicit false

namespace YandexPay.NetUrl

/-! ### Escaping -/

def isAlphanumeric (c : UInt8) : Bool :=
  (97 ≤ c ∧ c ≤ 122) ∨ (65 ≤ c ∧ c ≤ 90) ∨ (48 ≤ c ∧ c ≤ 57)

/-- Letters, digits and `-`, `_`, `.`, `~`. -/
def isUnreserved (c : UInt8) : Bool := isAlphanumeric c || [45, 95, 46, 126].contains c

/-- The bytes that a path keeps: `$`, `&`, `+`, `,`, `/`, `:`, `;`, `=`, `@` too, but not `?`. -/
def pathKeeps (c : UInt8) : Bool :=
  isUnreserved c || [36, 38, 43, 44, 47, 58, 59, 61, 64].contains c

def upperHex (n : ℕ) : UInt8 := UInt8.ofNat (if n < 10 then n + 48 else n + 55)

def unhex (c : UInt8) : Option ℕ :=
  if 48 ≤ c ∧ c ≤ 57 then some (c.toNat - 48)
  else if 97 ≤ c ∧ c ≤ 102 then some (c.toNat - 87)
  else if 65 ≤ c ∧ c ≤ 70 then some (c.toNat - 55)
  else none

def percent (c : UInt8) : Bytes := [37, upperHex (c.toNat / 16), upperHex (c.toNat % 16)]

/-- `escape` of one byte in a query; a space becomes `+`. -/
def queryEscapeByte (c : UInt8) : Bytes :=
  if c = 32 then [43] else if isUnreserved c then [c] else percent c

/-- `url.QueryEscape` -/
def queryEscape (s : Bytes) : Bytes := s.flatMap queryEscapeByte

/-- `url.PathEscape` with slashes kept: `escape` in the mode of a whole path. -/
def pathEscape (s : Bytes) : Bytes := s.flatMap fun c ↦ if pathKeeps c then [c] else percent c

/-- `unescape`; in a query `+` is a space. `none` is an `EscapeError`. -/
def unescape (inQuery : Bool) : Bytes → Option Bytes
  | [] => some []
  | 37 :: a :: b :: rest => do
    let high ← unhex a
    let low ← unhex b
    return UInt8.ofNat (high * 16 + low) :: (← unescape inQuery rest)
  | 37 :: _ => none
  | c :: rest => do
    return (if inQuery ∧ c = 43 then 32 else c) :: (← unescape inQuery rest)

/-- `url.QueryUnescape` -/
def queryUnescape (s : Bytes) : Option Bytes := unescape true s

theorem unhex_upperHex : ∀ n < 16, unhex (upperHex n) = some n := by decide

theorem isUnreserved_upperHex : ∀ n < 16, isUnreserved (upperHex n) = true := by decide

theorem unescape_percent (inQuery : Bool) (c : UInt8) (rest : Bytes) :
    unescape inQuery (percent c ++ rest) = (unescape inQuery rest).map (c :: ·) := by
  have hc := c.toNat_lt
  have hvalue : UInt8.ofNat (c.toNat / 16 * 16 + c.toNat % 16) = c := by
    rw [Nat.div_add_mod']
    exact UInt8.ofNat_toNat
  change unescape inQuery (37 :: _ :: _ :: rest) = _
  rw [unescape, unhex_upperHex _ (by omega), unhex_upperHex _ (by omega)]
  simp only [Option.bind_eq_bind, Option.bind_some, hvalue]
  cases unescape inQuery rest <;> rfl

theorem unescape_unreserved (inQuery : Bool) {c : UInt8} (hc : isUnreserved c = true)
    (rest : Bytes) : unescape inQuery (c :: rest) = (unescape inQuery rest).map (c :: ·) := by
  have hpercent : c ≠ 37 := by
    rintro rfl
    exact absurd hc (by decide)
  have hplus : c ≠ 43 := by
    rintro rfl
    exact absurd hc (by decide)
  rw [unescape, if_neg fun h ↦ hplus h.2]
  · cases unescape inQuery rest <;> rfl
  · exact fun _ _ _ h _ ↦ hpercent h
  · exact fun h ↦ hpercent h

theorem queryUnescape_queryEscapeByte (c : UInt8) (rest : Bytes) :
    queryUnescape (queryEscapeByte c ++ rest) = (queryUnescape rest).map (c :: ·) := by
  unfold queryEscapeByte queryUnescape
  split_ifs with hspace hkept
  · subst hspace
    change unescape true (43 :: rest) = _
    rw [unescape, if_pos ⟨rfl, rfl⟩]
    · cases unescape true rest <;> rfl
    · intro a b tail h
      cases h
    · intro h
      cases h
  · exact unescape_unreserved true hkept rest
  · exact unescape_percent true c rest

/-- An escaped component is read back. -/
theorem queryUnescape_queryEscape (s : Bytes) : queryUnescape (queryEscape s) = some s := by
  induction s with
  | nil => rfl
  | cons c s ih =>
    change queryUnescape (queryEscapeByte c ++ queryEscape s) = _
    rw [queryUnescape_queryEscapeByte, ih]
    rfl

/-- An escaped component has unreserved characters, `+` and `%` only. -/
theorem of_mem_queryEscape {s : Bytes} {x : UInt8} (hx : x ∈ queryEscape s) :
    isUnreserved x = true ∨ x = 43 ∨ x = 37 := by
  obtain ⟨c, -, hx⟩ := List.mem_flatMap.mp hx
  unfold queryEscapeByte at hx
  split_ifs at hx with hspace hkept
  · exact Or.inr (Or.inl (List.mem_singleton.mp hx))
  · rw [List.mem_singleton.mp hx]
    exact Or.inl hkept
  · have hc := c.toNat_lt
    simp only [percent, List.mem_cons, List.not_mem_nil, or_false] at hx
    rcases hx with rfl | rfl | rfl
    · exact Or.inr (Or.inr rfl)
    · exact Or.inl (isUnreserved_upperHex _ (by omega))
    · exact Or.inl (isUnreserved_upperHex _ (by omega))

/-- The separators of a query do not occur in an escaped component. -/
theorem separator_notMem_queryEscape {x : UInt8} (hx : x = 38 ∨ x = 59 ∨ x = 61) (s : Bytes) :
    x ∉ queryEscape s := by
  intro hmem
  have hkind := of_mem_queryEscape hmem
  rcases hx with rfl | rfl | rfl <;> revert hkind <;> decide

/-! ### Queries -/

/-- The values of a query: pairs of a key and a value, the values of one key in their order. -/
abbrev Values := List (Bytes × Bytes)

/-- `strings.Cut` with a separator of one byte. -/
def cut (separator : UInt8) (s : Bytes) : Bytes × Bytes :=
  (s.takeWhile (· ≠ separator), (s.dropWhile (· ≠ separator)).drop 1)

/-- One piece of a query. Empty pieces, those with a `;` and those that cannot be unescaped are
skipped. -/
def parsePair (piece : Bytes) : Option (Bytes × Bytes) :=
  if piece = [] ∨ piece.contains 59 then none
  else do
    let key ← queryUnescape (cut 61 piece).1
    let value ← queryUnescape (cut 61 piece).2
    return (key, value)

/-- `url.ParseQuery`, less the error, which `URL.Query` drops. -/
def parseQuery (query : Bytes) : Values := (query.splitOn 38).filterMap parsePair

/-- `Values.Get` -/
def Values.get (values : Values) (key : Bytes) : Bytes := (values.lookup key).getD []

/-- `Values.Set` -/
def Values.set (values : Values) (key value : Bytes) : Values :=
  values.filter (fun pair ↦ pair.1 ≠ key) ++ [(key, value)]

/-- The values in the order of their keys; those of one key keep their order. -/
def Values.sorted (values : Values) : Values :=
  values.insertionSort fun p q ↦ p.1 ≤ q.1

def encodePair (pair : Bytes × Bytes) : Bytes := queryEscape pair.1 ++ 61 :: queryEscape pair.2

/-- `Values.Encode` -/
def Values.encode (values : Values) : Bytes :=
  [38].intercalate (values.sorted.map encodePair)

theorem cut_of_notMem {separator : UInt8} {before : Bytes} (hbefore : separator ∉ before)
    (after : Bytes) : cut separator (before ++ separator :: after) = (before, after) := by
  have hkeep : ∀ x ∈ before, decide (x ≠ separator) = true := by
    intro x hx
    exact decide_eq_true fun h ↦ hbefore (h ▸ hx)
  rw [cut, List.takeWhile_append_of_pos hkeep, List.dropWhile_append_of_pos hkeep,
    List.takeWhile_cons_of_neg (by simp), List.dropWhile_cons_of_neg (by simp)]
  simp

theorem parsePair_encodePair (pair : Bytes × Bytes) : parsePair (encodePair pair) = some pair := by
  have hkey : 61 ∉ queryEscape pair.1 := separator_notMem_queryEscape (by simp) _
  have hcut : cut 61 (encodePair pair) = (queryEscape pair.1, queryEscape pair.2) :=
    cut_of_notMem hkey _
  have hsemicolon : 59 ∉ encodePair pair := by
    simp only [encodePair, List.mem_append, List.mem_cons, not_or]
    exact ⟨separator_notMem_queryEscape (by simp) _, by decide,
      separator_notMem_queryEscape (by simp) _⟩
  have hkept : ¬(encodePair pair = [] ∨ (encodePair pair).contains 59) := by
    rintro (h | h)
    · simp [encodePair] at h
    · exact hsemicolon (List.contains_iff_mem.mp h)
  rw [parsePair, if_neg hkept, hcut]
  simp only [queryUnescape_queryEscape, Option.bind_eq_bind, Option.bind_some, Option.pure_def]

/-- The encoded values are parsed back, in the order of their keys. -/
theorem parseQuery_encode (values : Values) : parseQuery values.encode = values.sorted := by
  unfold parseQuery Values.encode
  by_cases hnil : values.sorted = []
  · rw [hnil]
    decide
  · have hseparator : ∀ piece ∈ values.sorted.map encodePair, 38 ∉ piece := by
      intro piece hpiece
      obtain ⟨pair, -, rfl⟩ := List.mem_map.mp hpiece
      simp only [encodePair, List.mem_append, List.mem_cons, not_or]
      exact ⟨separator_notMem_queryEscape (by simp) _, by decide,
        separator_notMem_queryEscape (by simp) _⟩
    rw [List.splitOn_intercalate 38 hseparator (mt List.map_eq_nil_iff.mp hnil),
      List.filterMap_map]
    have hpairs : parsePair ∘ encodePair = some := funext parsePair_encodePair
    rw [hpairs, List.filterMap_some]

theorem Values.sorted_sorted (values : Values) : values.sorted.sorted = values.sorted := by
  have htotal : Std.Total fun p q : Bytes × Bytes ↦ p.1 ≤ q.1 :=
    ⟨fun p q ↦ Std.Total.total p.1 q.1⟩
  have htrans : IsTrans (Bytes × Bytes) fun p q ↦ p.1 ≤ q.1 :=
    ⟨fun p q r hpq hqr ↦ List.le_trans hpq hqr⟩
  exact (List.pairwise_insertionSort _ values).insertionSort_eq

/-- What `encode` has written is written the same way again. -/
theorem encode_parseQuery_encode (values : Values) :
    (parseQuery values.encode).encode = values.encode := by
  rw [parseQuery_encode, Values.encode, Values.sorted_sorted]
  rfl

example : (parseQuery (utf8 "b=2&a=%31+&a;=3&=%4")).encode = utf8 "a=1+&b=2" := by decide

theorem lookup_of_mem {values : Values} {key value : Bytes} (hmem : (key, value) ∈ values)
    (hunique : ∀ pair ∈ values, pair.1 = key → pair.2 = value) :
    values.lookup key = some value := by
  induction values with
  | nil => cases hmem
  | cons pair values ih =>
    obtain ⟨k, v⟩ := pair
    rw [List.lookup_cons]
    by_cases hk : key = k
    · subst hk
      rw [beq_self_eq_true]
      exact congrArg some (hunique (key, v) List.mem_cons_self rfl)
    · rw [beq_false_of_ne hk]
      refine ih ?_ fun pair hpair ↦ hunique pair (List.mem_cons_of_mem _ hpair)
      rcases List.mem_cons.mp hmem with h | h
      · exact absurd (congrArg Prod.fst h) hk
      · exact h

/-- A key that was set is read back from the parsed query. -/
theorem get_parseQuery_encode_set (values : Values) (key value : Bytes) :
    (parseQuery (values.set key value).encode).get key = value := by
  rw [parseQuery_encode, Values.get]
  have hmem : ∀ pair, pair ∈ (values.set key value).sorted ↔ pair ∈ values.set key value :=
    fun pair ↦ List.mem_insertionSort _
  have hlookup : (values.set key value).sorted.lookup key = some value := by
    refine lookup_of_mem ?_ ?_
    · rw [hmem]
      simp [Values.set]
    · intro pair hpair hkey
      rw [hmem, Values.set, List.mem_append, List.mem_filter, List.mem_singleton] at hpair
      rcases hpair with ⟨-, hne⟩ | rfl
      · exact absurd hkey (of_decide_eq_true hne)
      · rfl
  rw [hlookup]
  rfl

/-! ### URLs -/

/-- `url.URL`, less the parts that neither its path nor its query is taken from. -/
structure URL where
  Path : Bytes
  RawPath : Bytes
  RawQuery : Bytes
deriving DecidableEq

/-- `URL.Query` -/
def URL.Query (u : URL) : Values := parseQuery u.RawQuery

/-- `validEncoded` of a path: `!`, `'`, `(`, `)`, `*`, `[`, `]` and `%` are allowed too. -/
def validEncoded (s : Bytes) : Bool :=
  s.all fun c ↦ pathKeeps c || [33, 39, 40, 41, 42, 91, 93, 37].contains c

/-- `URL.EscapedPath` -/
def URL.EscapedPath (u : URL) : Bytes :=
  if u.RawPath ≠ [] ∧ validEncoded u.RawPath ∧ unescape false u.RawPath = some u.Path then
    u.RawPath
  else if u.Path = [42] then [42]
  else pathEscape u.Path

end YandexPay.NetUrl
