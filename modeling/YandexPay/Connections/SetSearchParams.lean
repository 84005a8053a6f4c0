import YandexPay.Connections.Url

/-!
# What `setSearchParams` changes

`SetsOnly` is the intended effect on a URL: its base, its hash and its other parameters stay, and
the given parameters have the given values. The code has it exactly for the URLs and parameters
that are `Settable`: it goes through a plain object, which holds every key once, lists array
indices first and ignores `__proto__`, and it drops what follows a second `=`.
-/

set_option autoImplicit false
set_option relaxedAutoImplicit false

namespace YandexPay.Url

open Delimited JsUri JsObject

/-! ### The intended effect -/

def isOther (searchParams : SearchParams) (p : Option Text × Option Text) : Bool :=
  searchParams.items.all fun q ↦ p.1 ≠ some q.1

/-- The parameters of a URL that are not given, in their order. -/
def others (url : Text) (searchParams : SearchParams) : List (Option Text × Option Text) :=
  (parameters url).filter (isOther searchParams)

structure SetsOnly (url : Text) (searchParams : SearchParams) (result : Text) : Prop where
  base_eq : base result = base url
  hash_eq : hash result = hash url
  others_eq : others result searchParams = others url searchParams
  given_eq : ∀ p ∈ searchParams.items, (parameters result).filter (fun q ↦ q.1 = some p.1) =
    p.2.toList.map fun value ↦ (some p.1, some value)

/-! ### The condition -/

def otherPieces (url : Text) (searchParams : SearchParams) : List Text :=
  (pieces url).filter fun piece ↦ isOther searchParams (parameter piece)

/-- The other parameters that can be decoded. -/
def otherPairs (url : Text) (searchParams : SearchParams) : List (Text × Text) :=
  (others url searchParams).filterMap fun p ↦ do return (← p.1, ← p.2)

structure Settable (url : Text) (searchParams : SearchParams) : Prop where
  hash : ∀ u ∈ hash url, isLineTerminator u = false
  escapes : ∀ piece ∈ pieces url, ∀ part ∈ (piece.splitOn 61).take 2,
    (decodeURIComponent part).isSome = true
  oneEqualsSign : ∀ piece ∈ otherPieces url searchParams, piece.count 61 = 1
  keys : InKeyOrder ((otherPairs url searchParams).map Prod.fst)
  wellFormed : ∀ p ∈ otherPairs url searchParams, IsWellFormed p.1 ∧ IsWellFormed p.2
  given : ∀ p ∈ searchParams.items, ∀ value, p.2 = some value →
    IsWellFormed p.1 ∧ IsWellFormed value

/-! ### One piece -/

theorem decodePair_of_notMem {piece : Text} (h : 61 ∉ piece) :
    decodePair piece = (decodeURIComponent piece).map (·, text "undefined") := by
  have hundefined : decodeURIComponent (text "undefined") = some (text "undefined") := by
    decide +kernel
  rw [decodePair, List.splitOn_eq_singleton h]
  change (decodeURIComponent piece).bind (fun key ↦ (decodeURIComponent (text "undefined")).bind
    fun value ↦ some (key, value)) = _
  rw [hundefined]
  cases decodeURIComponent piece <;> rfl

theorem decodePair_append_cons {key : Text} (h : 61 ∉ key) (rest : Text) :
    decodePair (key ++ 61 :: rest) = (decodeURIComponent key).bind fun k ↦
      (decodeURIComponent (rest.takeWhile (· ≠ 61))).map (k, ·) := by
  have hsecond : ∃ more, rest.splitOn 61 = rest.takeWhile (· ≠ 61) :: more := by
    by_cases hmore : 61 ∈ rest
    · obtain ⟨second, third, rfl, hsecond⟩ := List.eq_append_cons_of_mem hmore
      rw [List.splitOn_append_cons_self_of_not_mem hsecond,
        (takeWhile_dropWhile_of_notMem hsecond third).1]
      exact ⟨_, rfl⟩
    · rw [List.splitOn_eq_singleton hmore, (takeWhile_dropWhile_self hmore).1]
      exact ⟨_, rfl⟩
  obtain ⟨more, hmore⟩ := hsecond
  rw [decodePair, List.splitOn_append_cons_self_of_not_mem h, hmore]
  change (decodeURIComponent key).bind (fun k ↦
    (decodeURIComponent (rest.takeWhile _)).bind fun value ↦ some (k, value)) = _
  cases decodeURIComponent key with
  | none => rfl
  | some k => cases decodeURIComponent (rest.takeWhile _) <;> rfl

/-- The value of a pair is that of the parameter when the piece has one `=`. -/
theorem parameter_of_decodePair {piece : Text} {pair : Text × Text}
    (h : decodePair piece = some pair) : (parameter piece).1 = some pair.1 ∧
      ((parameter piece).2 = some pair.2 ↔ piece.count 61 = 1) := by
  by_cases hequals : 61 ∈ piece
  · obtain ⟨key, rest, rfl, hkey⟩ := List.eq_append_cons_of_mem hequals
    obtain ⟨hbefore, hafter⟩ := takeWhile_dropWhile_of_notMem hkey rest
    rw [decodePair_append_cons hkey] at h
    obtain ⟨k, hk, h⟩ := Option.bind_eq_some_iff.mp h
    obtain ⟨value, hvalue, rfl⟩ := Option.map_eq_some_iff.mp h
    rw [parameter, hbefore, hafter, List.count_append, List.count_cons_self,
      List.count_eq_zero_of_not_mem hkey]
    refine ⟨hk, ?_⟩
    change decodeURIComponent rest = some value ↔ _
    by_cases hmore : 61 ∈ rest
    · obtain ⟨second, third, rfl, hsecond⟩ := List.eq_append_cons_of_mem hmore
      rw [(takeWhile_dropWhile_of_notMem hsecond third).1] at hvalue
      refine iff_of_false (fun hwhole ↦ ?_) ?_
      · -- the value would go on with the part that was dropped
        rw [decodeURIComponent_append hvalue] at hwhole
        obtain ⟨more, hmore, hlength⟩ := Option.map_eq_some_iff.mp hwhole
        rw [List.append_right_eq_self.mp hlength, decodeURIComponent_cons (by decide)] at hmore
        obtain ⟨tail, htail, habsurd⟩ := Option.map_eq_some_iff.mp hmore
        exact absurd habsurd (List.cons_ne_nil _ _)
      · rw [List.count_append, List.count_cons_self]
        omega
    · rw [(takeWhile_dropWhile_self hmore).1] at hvalue
      rw [List.count_eq_zero_of_not_mem hmore]
      exact iff_of_true hvalue rfl
  · obtain ⟨hbefore, hafter⟩ := takeWhile_dropWhile_self hequals
    rw [decodePair_of_notMem hequals] at h
    obtain ⟨k, hk, rfl⟩ := Option.map_eq_some_iff.mp h
    have hempty : decodeURIComponent (List.drop 1 []) ≠ some (text "undefined") := by
      decide +kernel
    rw [parameter, hbefore, hafter, List.count_eq_zero_of_not_mem hequals]
    exact ⟨hk, iff_of_false hempty (by decide)⟩

theorem decodePair_isSome (piece : Text) : (decodePair piece).isSome = true ↔
    ∀ part ∈ (piece.splitOn 61).take 2, (decodeURIComponent part).isSome = true := by
  have hundefined : decodeURIComponent (text "undefined") = some (text "undefined") := by
    decide +kernel
  unfold decodePair
  cases hsplit : piece.splitOn 61 with
  | nil => exact absurd hsplit (List.splitOn_ne_nil 61 piece)
  | cons key rest =>
    cases hkey : decodeURIComponent key with
    | none => simp [hkey]
    | some k =>
      cases rest with
      | nil => simp [hkey, hundefined]
      | cons value rest => cases hvalue : decodeURIComponent value <;> simp [hkey, hvalue]

/-! ### One run -/

/-- A pair as a property of the object. -/
def property (pair : Text × Text) : Text × Option Text := (pair.1, some pair.2)

theorem property_injective : Function.Injective property := by
  rintro ⟨key, value⟩ ⟨key', value'⟩ heq
  cases heq
  rfl

/-- A pair as a parameter of a URL. -/
def asParameter (pair : Text × Text) : Option Text × Option Text := (some pair.1, some pair.2)

section Pieces

variable {pieces : List Text} {pairs : List (Text × Text)}
  (h : List.Forall₂ (fun piece pair ↦ decodePair piece = some pair) pieces pairs)
include h

/-- Pieces say what is decoded from them when each has one `=`. -/
theorem map_parameter_iff : pieces.map parameter = pairs.map asParameter ↔
    ∀ piece ∈ pieces, piece.count 61 = 1 := by
  induction h with
  | nil => simp
  | @cons piece pair pieces pairs hpair hrest ih =>
    obtain ⟨hkey, hvalue⟩ := parameter_of_decodePair hpair
    have hfirst : parameter piece = asParameter pair ↔ piece.count 61 = 1 := by
      rw [← hvalue]
      exact ⟨fun heq ↦ congrArg Prod.snd heq, fun heq ↦ Prod.ext hkey heq⟩
    rw [List.map_cons, List.map_cons, List.cons.injEq, hfirst, ih, List.forall_mem_cons]

theorem map_fst_parameter : (pieces.map parameter).map Prod.fst =
    (pairs.map Prod.fst).map some := by
  induction h with
  | nil => rfl
  | cons hpair hrest ih =>
    simp only [List.map_cons, (parameter_of_decodePair hpair).1, ih]

end Pieces

def definedPairs (properties : List (Text × Option Text)) : List (Text × Text) :=
  properties.filterMap fun p ↦ p.2.map (p.1, ·)

theorem definedPairs_property (pairs : List (Text × Text)) :
    definedPairs (pairs.map property) = pairs := by
  rw [definedPairs, List.filterMap_map]
  exact List.filterMap_some

theorem map_property_definedPairs {properties : List (Text × Option Text)}
    (h : ∀ p ∈ properties, ∃ pair, p = property pair) :
    (definedPairs properties).map property = properties := by
  induction properties with
  | nil => rfl
  | cons p properties ih =>
    obtain ⟨⟨pair, rfl⟩, hrest⟩ := List.forall_mem_cons.mp h
    exact congrArg (property pair :: ·) (ih hrest)

theorem definedPairs_filter (keep : Text → Bool) (properties : List (Text × Option Text)) :
    definedPairs (properties.filter fun p ↦ keep p.1) =
      (definedPairs properties).filter fun p ↦ keep p.1 := by
  induction properties with
  | nil => rfl
  | cons p properties ih =>
    obtain ⟨key, value⟩ := p
    unfold definedPairs at ih ⊢
    cases value with
    | none =>
      cases hkey : keep key with
      | true => simpa [hkey] using ih
      | false => simpa [hkey] using ih
    | some value =>
      cases hkey : keep key with
      | true => simpa [hkey] using ih
      | false => simpa [hkey] using ih

/-- What the code reads from a URL that the regular expression matches. -/
theorem getSearchParams_of_matches {url : Text} {parts : UrlParts} (h : Matches url parts) :
    getSearchParams url =
      ((pieces url).mapM decodePair).map fun pairs ↦ assignAll (pairs.map property) := by
  rw [getSearchParams, getSearchString_of_matches h, pieces]
  split_ifs with hnil
  · rfl
  · cases (List.splitOn 38 (query url)).mapM decodePair <;> rfl

theorem setSearchParams_of_matches {url : Text} {parts : UrlParts} (h : Matches url parts)
    {searchParams : SearchParams} {result : Text} :
    setSearchParams url searchParams = some result ↔ ∃ pairs written,
      (pieces url).mapM decodePair = some pairs ∧
      (definedEntries (spread (assignAll (pairs.map property)) searchParams)).mapM encodePair =
        some written ∧
      result = join parts ([38].intercalate written) := by
  rw [setSearchParams, getUrlParts_of_matches h, getSearchParams_of_matches h]
  constructor
  · intro hrun
    obtain ⟨current, hcurrent, hrun⟩ := Option.bind_eq_some_iff.mp hrun
    obtain ⟨next, hnext, hrun⟩ := Option.bind_eq_some_iff.mp hrun
    obtain ⟨pairs, hpairs, rfl⟩ := Option.map_eq_some_iff.mp hcurrent
    obtain ⟨written, hwritten, hintercalate⟩ := Option.bind_eq_some_iff.mp hnext
    cases hintercalate
    exact ⟨pairs, written, hpairs, hwritten, (Option.some.inj hrun).symm⟩
  · rintro ⟨pairs, written, hpairs, hwritten, rfl⟩
    unfold createSearchString
    simp only [hpairs, hwritten, Option.map_some, Option.bind_eq_bind, Option.bind_some,
      Option.pure_def]

section Run

variable {url : Text} {searchParams : SearchParams} {parts : UrlParts} (h : Matches url parts)
  {pairs : List (Text × Text)} (hpairs : (pieces url).mapM decodePair = some pairs)

/-- A key that is none of the given ones. -/
def isOtherKey (searchParams : SearchParams) (key : Text) : Bool :=
  searchParams.items.all fun q ↦ key ≠ q.1

theorem isOther_some (key : Text) (value : Option Text) :
    isOther searchParams (some key, value) = isOtherKey searchParams key := by
  simp [isOther, isOtherKey]

/-- The pairs that were decoded from the other pieces. -/
def otherDecoded (searchParams : SearchParams) (pairs : List (Text × Text)) : List (Text × Text) :=
  pairs.filter fun p ↦ isOtherKey searchParams p.1

include hpairs in
theorem forall₂_otherPieces : List.Forall₂ (fun piece pair ↦ decodePair piece = some pair)
    (otherPieces url searchParams) (otherDecoded searchParams pairs) := by
  refine List.rel_filter (fun piece pair hpair ↦ ?_) (mapM_eq_some_iff.mp hpairs)
  change isOther searchParams ((parameter piece).1, _) = true ↔
    isOtherKey searchParams pair.1 = true
  rw [(parameter_of_decodePair hpair).1, isOther_some]

theorem others_eq_map (url : Text) (searchParams : SearchParams) :
    others url searchParams = (otherPieces url searchParams).map parameter := by
  rw [others, parameters, List.filter_map]
  rfl

include hpairs in
theorem otherPairs_eq
    (hone : ∀ piece ∈ otherPieces url searchParams, piece.count 61 = 1) :
    otherPairs url searchParams = otherDecoded searchParams pairs := by
  rw [otherPairs, others_eq_map, (map_parameter_iff (forall₂_otherPieces hpairs)).mpr hone,
    List.filterMap_map]
  exact List.filterMap_some

/-- The properties of the object that are not given. -/
def otherEntries (searchParams : SearchParams) (pairs : List (Text × Text)) :
    List (Text × Option Text) :=
  entries (assignAll ((otherDecoded searchParams pairs).map property))

theorem filter_entries_spread_other (searchParams : SearchParams) (pairs : List (Text × Text)) :
    (entries (spread (assignAll (pairs.map property)) searchParams)).filter
      (fun p ↦ isOtherKey searchParams p.1) = otherEntries searchParams pairs := by
  rw [filter_entries_spread, filter_entries_assignAll, List.filter_map]
  · rfl
  · intro p hp
    simp only [isOtherKey, List.all_eq_false]
    exact ⟨p, hp, by simp⟩

theorem fst_property (pairs : List (Text × Text)) :
    (pairs.map property).map Prod.fst = pairs.map Prod.fst := by
  rw [List.map_map]
  rfl

/-- No property of the object is undefined. -/
theorem exists_of_mem_otherEntries {p : Text × Option Text}
    (hp : p ∈ otherEntries searchParams pairs) : ∃ pair, p = property pair := by
  obtain ⟨pair, -, hpair⟩ := List.mem_map.mp (mem_of_mem_entries_assignAll hp).1
  exact ⟨pair, hpair.symm⟩

include hpairs in
theorem others_agree_iff :
    (definedPairs (otherEntries searchParams pairs)).map asParameter = others url searchParams ↔
      (∀ piece ∈ otherPieces url searchParams, piece.count 61 = 1) ∧
        InKeyOrder ((otherDecoded searchParams pairs).map Prod.fst) := by
  rw [others_eq_map]
  constructor
  · intro heq
    have hsome := congrArg (List.map Prod.fst) heq
    rw [map_fst_parameter (forall₂_otherPieces hpairs), List.map_map] at hsome
    have hkeys : (definedPairs (otherEntries searchParams pairs)).map Prod.fst =
        (otherDecoded searchParams pairs).map Prod.fst := by
      refine List.map_injective_iff.mpr (Option.some_injective Text) ?_
      rw [← hsome, List.map_map]
      rfl
    rw [← fst_property, map_property_definedPairs fun p ↦ exists_of_mem_otherEntries,
      ← fst_property] at hkeys
    have horder := inKeyOrder_of_entries_assignAll hkeys
    have hentries := entries_assignAll horder
    rw [fst_property] at horder
    rw [otherEntries, hentries, definedPairs_property] at heq
    exact ⟨(map_parameter_iff (forall₂_otherPieces hpairs)).mp heq.symm, horder⟩
  · rintro ⟨hone, horder⟩
    rw [← fst_property] at horder
    rw [otherEntries, entries_assignAll horder, definedPairs_property,
      (map_parameter_iff (forall₂_otherPieces hpairs)).mpr hone]

section Written

variable {written : List Text} (hwritten :
  (definedEntries (spread (assignAll (pairs.map property)) searchParams)).mapM encodePair =
    some written)
include h hwritten

theorem others_join : others (join parts ([38].intercalate written)) searchParams =
    (definedPairs (otherEntries searchParams pairs)).map asParameter := by
  have hkeep : isOther searchParams ∘ asParameter =
      fun p : Text × Text ↦ isOtherKey searchParams p.1 :=
    funext fun p ↦ isOther_some p.1 _
  rw [others, parameters_join hwritten ⟨url, h⟩, ← filter_entries_spread_other,
    definedPairs_filter, ← hkeep]
  exact List.filter_map

theorem given_join {p : Text × Option Text} (hp : p ∈ searchParams.items) :
    (parameters (join parts ([38].intercalate written))).filter (fun q ↦ q.1 = some p.1) =
      p.2.toList.map fun value ↦ (some p.1, some value) := by
  have hkeep : (fun q : Option Text × Option Text ↦ decide (q.1 = some p.1)) ∘ asParameter =
      fun q ↦ decide (q.1 = p.1) :=
    funext fun q ↦ by simp [asParameter]
  have honly : (definedEntries (spread (assignAll (pairs.map property)) searchParams)).filter
      (fun q ↦ q.1 = p.1) = definedPairs [p] := by
    rw [← filter_entries_spread_of_mem hp]
    exact (definedPairs_filter (fun key ↦ key = p.1) _).symm
  rw [parameters_join hwritten ⟨url, h⟩]
  change (List.map asParameter _).filter _ = _
  rw [List.filter_map, hkeep, honly]
  obtain ⟨key, value⟩ := p
  cases value <;> rfl

include hpairs in
/-- What the result of a run keeps of a URL. -/
theorem setsOnly_join_iff : SetsOnly url searchParams (join parts ([38].intercalate written)) ↔
    (∀ piece ∈ otherPieces url searchParams, piece.count 61 = 1) ∧
      InKeyOrder ((otherDecoded searchParams pairs).map Prod.fst) := by
  have hresult := matches_join ⟨url, h⟩ (sharp_notMem_written hwritten)
  rw [← others_agree_iff hpairs, ← others_join h hwritten]
  constructor
  · exact fun honly ↦ honly.others_eq
  · intro hothers
    refine ⟨?_, ?_, hothers, fun p hp ↦ given_join h hwritten hp⟩
    · rw [base_of_matches hresult, base_of_matches h]
    · rw [hash_of_matches hresult, hash_of_matches h]

end Written

end Run

/-! ### The result -/

theorem encodePair_isSome (pair : Text × Text) :
    (encodePair pair).isSome = true ↔ IsWellFormed pair.1 ∧ IsWellFormed pair.2 := by
  rw [← encodeURIComponent_isSome, ← encodeURIComponent_isSome, encodePair]
  cases encodeURIComponent pair.1 with
  | none => simp
  | some key => cases encodeURIComponent pair.2 <;> simp

theorem mem_definedEntries {o : SearchParams} {pair : Text × Text} :
    pair ∈ definedEntries o ↔ property pair ∈ entries o := by
  rw [definedEntries, List.mem_filterMap]
  constructor
  · rintro ⟨⟨key, value⟩, hp, hvalue⟩
    obtain ⟨value, rfl, rfl⟩ := Option.map_eq_some_iff.mp hvalue
    exact hp
  · exact fun hp ↦ ⟨property pair, hp, rfl⟩

theorem nodup_definedEntries (o : SearchParams) : ((definedEntries o).map Prod.fst).Nodup := by
  have hsublist : ∀ properties : List (Text × Option Text),
      ((definedPairs properties).map Prod.fst).Sublist (properties.map Prod.fst) := by
    intro properties
    induction properties with
    | nil => exact List.Sublist.refl _
    | cons p properties ih =>
      obtain ⟨key, value⟩ := p
      cases value with
      | none => exact ih.cons key
      | some value => exact ih.cons_cons key
  exact (nodup_entries o).sublist (hsublist (entries o))

/-- A URL that the regular expression does not match loses its hash. -/
theorem not_setsOnly_of_hash {url : Text} (hline : (hash url).any isLineTerminator = true)
    {searchParams : SearchParams} {result : Text}
    (hrun : setSearchParams url searchParams = some result) :
    ¬SetsOnly url searchParams result := by
  intro honly
  have hparts : getUrlParts url = ⟨[], [], []⟩ := by
    rw [getUrlParts, matchUrlParts_eq_none.mpr hline]
    rfl
  have hempty : Matches [] ⟨[], [], []⟩ :=
    ⟨rfl, fun u hu ↦ absurd hu List.not_mem_nil, Or.inl rfl, Or.inl rfl⟩
  obtain ⟨current, -, hrun⟩ := Option.bind_eq_some_iff.mp hrun
  obtain ⟨next, hnext, hrun⟩ := Option.bind_eq_some_iff.mp hrun
  obtain ⟨written, hwritten, hintercalate⟩ := Option.bind_eq_some_iff.mp hnext
  cases hintercalate
  have hresult := hash_of_matches (matches_join ⟨[], hempty⟩ (sharp_notMem_written hwritten))
  rw [← hparts, Option.some.inj hrun, honly.hash_eq] at hresult
  rw [hresult, hparts] at hline
  cases hline

theorem exists_matches {url : Text} (hline : (hash url).any isLineTerminator = false) :
    ∃ parts, Matches url parts := by
  cases hmatch : matchUrlParts url with
  | none => exact absurd (matchUrlParts_eq_none.mp hmatch) (by rw [hline]; decide)
  | some parts => exact ⟨parts, matchUrlParts_eq_some_iff.mp hmatch⟩

section Encodable

variable {url : Text} {searchParams : SearchParams} {pairs : List (Text × Text)}
  (horder : InKeyOrder ((otherDecoded searchParams pairs).map Prod.fst))
include horder

/-- The pairs to write are the other ones and the given ones. -/
theorem mem_definedEntries_spread {pair : Text × Text} :
    pair ∈ definedEntries (spread (assignAll (pairs.map property)) searchParams) ↔
      pair ∈ otherDecoded searchParams pairs ∨ property pair ∈ searchParams.items := by
  have hentries : otherEntries searchParams pairs =
      (otherDecoded searchParams pairs).map property := by
    rw [← fst_property] at horder
    exact entries_assignAll horder
  have hothers := filter_entries_spread_other searchParams pairs
  rw [hentries] at hothers
  rw [mem_definedEntries]
  constructor
  · intro hmem
    by_cases hother : isOtherKey searchParams pair.1 = true
    · have hkept : property pair ∈ (otherDecoded searchParams pairs).map property := by
        rw [← hothers]
        exact List.mem_filter.mpr ⟨hmem, hother⟩
      exact Or.inl ((List.mem_map_of_injective property_injective).mp hkept)
    · obtain ⟨q, hq, hkey⟩ : ∃ q ∈ searchParams.items, pair.1 = q.1 := by
        by_contra hnone
        refine hother (List.all_eq_true.mpr fun q hq ↦ decide_eq_true fun heq ↦ ?_)
        exact hnone ⟨q, hq, heq⟩
      have hgiven : property pair ∈ [q] := by
        rw [← filter_entries_spread_of_mem hq]
        exact List.mem_filter.mpr ⟨hmem, decide_eq_true hkey⟩
      rw [List.mem_singleton.mp hgiven]
      exact Or.inr hq
  · rintro (hmem | hmem)
    · have hkept := List.mem_map_of_mem (f := property) hmem
      rw [← hothers] at hkept
      exact List.mem_of_mem_filter hkept
    · have hkept : property pair ∈ [property pair] := List.mem_singleton_self _
      rw [← filter_entries_spread_of_mem hmem] at hkept
      exact List.mem_of_mem_filter hkept

end Encodable

/-- `setSearchParams` changes only what it is asked to exactly for the settable URLs. -/
theorem setSearchParams_setsOnly_iff (url : Text) (searchParams : SearchParams) :
    (∃ result, setSearchParams url searchParams = some result ∧
      SetsOnly url searchParams result) ↔ Settable url searchParams := by
  constructor
  · rintro ⟨result, hrun, honly⟩
    have hline : (hash url).any isLineTerminator = false := by
      by_contra hline
      exact not_setsOnly_of_hash (Bool.not_eq_false _ ▸ hline) hrun honly
    obtain ⟨parts, hparts⟩ := exists_matches hline
    obtain ⟨pairs, written, hpairs, hwritten, rfl⟩ := (setSearchParams_of_matches hparts).mp hrun
    obtain ⟨hone, horder⟩ := (setsOnly_join_iff hparts hpairs hwritten).mp honly
    have hother := otherPairs_eq hpairs hone
    have hwellFormed : ∀ pair ∈ definedEntries (spread (assignAll (pairs.map property))
        searchParams), IsWellFormed pair.1 ∧ IsWellFormed pair.2 := by
      intro pair hpair
      rw [← encodePair_isSome]
      exact mapM_isSome.mp (Option.isSome_of_eq_some hwritten) pair hpair
    refine ⟨?_, ?_, hone, ?_, ?_, ?_⟩
    · simpa using hline
    · intro piece hpiece
      rw [← decodePair_isSome]
      exact mapM_isSome.mp (Option.isSome_of_eq_some hpairs) piece hpiece
    · rw [hother]
      exact horder
    · intro pair hpair
      rw [hother] at hpair
      exact hwellFormed pair ((mem_definedEntries_spread horder).mpr (Or.inl hpair))
    · rintro ⟨key, value⟩ hp value' rfl
      exact hwellFormed (key, value') ((mem_definedEntries_spread horder).mpr (Or.inr hp))
  · intro hsettable
    have hline : (hash url).any isLineTerminator = false := by simpa using hsettable.hash
    obtain ⟨parts, hparts⟩ := exists_matches hline
    obtain ⟨pairs, hpairs⟩ := Option.isSome_iff_exists.mp (mapM_isSome.mpr fun piece hpiece ↦
      (decodePair_isSome piece).mpr (hsettable.escapes piece hpiece))
    have hother := otherPairs_eq hpairs hsettable.oneEqualsSign
    have horder := hsettable.keys
    rw [hother] at horder
    obtain ⟨written, hwritten⟩ := Option.isSome_iff_exists.mp (mapM_isSome.mpr
      fun pair (hpair : pair ∈
        definedEntries (spread (assignAll (pairs.map property)) searchParams)) ↦ by
        rw [encodePair_isSome]
        rcases (mem_definedEntries_spread horder).mp hpair with hmem | hmem
        · exact hsettable.wellFormed pair (hother ▸ hmem)
        · exact hsettable.given _ hmem pair.2 rfl)
    exact ⟨_, (setSearchParams_of_matches hparts).mpr ⟨pairs, written, hpairs, hwritten, rfl⟩,
      (setsOnly_join_iff hparts hpairs hwritten).mpr ⟨hsettable.oneEqualsSign, horder⟩⟩

theorem second_equals_sign_dropped :
    ¬∃ result, setSearchParams (text "/?a=b=c") Dict.empty = some result ∧
      SetsOnly (text "/?a=b=c") Dict.empty result := by
  rintro ⟨result, hrun, honly⟩
  have hresult : setSearchParams (text "/?a=b=c") Dict.empty = some (text "/?a=b") := by
    decide +kernel
  rw [hrun, Option.some.injEq] at hresult
  have hothers := honly.others_eq
  rw [hresult] at hothers
  exact absurd hothers (by decide +kernel)

end YandexPay.Url
