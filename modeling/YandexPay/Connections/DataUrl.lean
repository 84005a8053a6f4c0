import YandexPay.Connections.SetSearchParams

/-!
# Data in a URL

`getDataFromUrl`, `setDataToUrl` and `removeDataFromUrl` of `packages/utils/connections/helpers`.
A window hands data to the page of a URL in one search parameter of it. `data_round_trip`: what was
set is read back, the hash stays, and nothing can be read after the data was removed.
-/

set_option autoImplicit false
set_option relaxedAutoImplicit false

namespace YandexPay.Url

open JsUri JsObject

def QUERY_KEY : Text := text "__YP__"

/-- `params[QUERY_KEY] || ''` -/
def getDataFromUrl (url : Text) : Option Text := do
  let params ← getSearchParams url
  return (params.get? QUERY_KEY).join.getD []

/-- `{[QUERY_KEY]: data}` -/
def dataParams (data : Option Text) : SearchParams := Dict.ofList [(QUERY_KEY, data)]

def setDataToUrl (url data : Text) : Option Text := setSearchParams url (dataParams (some data))

def removeDataFromUrl (url : Text) : Option Text := setSearchParams url (dataParams none)

/-- The text of a URL: no lone surrogates, no line breaks, and every part of its query can be
decoded. -/
structure IsUrl (url : Text) : Prop where
  wellFormed : IsWellFormed url
  noLineBreak : ∀ u ∈ url, isLineTerminator u = false
  escapes : ∀ piece ∈ pieces url, ∀ part ∈ piece.splitOn 61,
    (decodeURIComponent part).isSome = true

/-- A URL whose search parameters can be read and written. -/
def Readable (url : Text) : Prop := ∃ parts pairs, Matches url parts ∧
  (pieces url).mapM decodePair = some pairs ∧
    ∀ pair ∈ pairs, IsWellFormed pair.1 ∧ IsWellFormed pair.2

theorem isWellFormed_of_mem_splitOn {u : CodeUnit} (hu : u.toNat < 0xD800) {s : Text}
    (hs : IsWellFormed s) : ∀ part ∈ s.splitOn u, IsWellFormed part := by
  induction hlength : s.length using Nat.strong_induction_on generalizing s with
  | _ n ih =>
    by_cases hmem : u ∈ s
    · obtain ⟨before, after, rfl, hbefore⟩ := List.eq_append_cons_of_mem hmem
      obtain ⟨hwell, hrest⟩ := isWellFormed_append_cons hu hs
      rw [List.splitOn_append_cons_self_of_not_mem hbefore, List.forall_mem_cons]
      refine ⟨hwell, ih after.length ?_ hrest rfl⟩
      rw [← hlength, List.length_append, List.length_cons]
      omega
    · rw [List.splitOn_eq_singleton hmem, List.forall_mem_singleton]
      exact hs

theorem isWellFormed_query {url : Text} {parts : UrlParts} (hparts : Matches url parts)
    (h : IsWellFormed url) : IsWellFormed (query url) := by
  rw [query_of_matches hparts]
  rcases hparts.second with hnil | ⟨tail, hcons, -⟩
  · rw [hnil]
    exact ⟨[], rfl⟩
  · have hwhole := hparts.whole
    rw [hcons, List.cons_append] at hwhole
    rw [hwhole] at h
    have htail := (isWellFormed_append_cons (by decide) h).2
    rw [hcons, List.drop_one, List.tail_cons]
    rcases hparts.third with hnil | ⟨rest, hcons', -⟩
    · rwa [hnil, List.append_nil] at htail
    · rw [hcons'] at htail
      exact (isWellFormed_append_cons (by decide) htail).1

theorem isWellFormed_of_decodePair {piece : Text} {pair : Text × Text}
    (h : decodePair piece = some pair) (hpiece : IsWellFormed piece) :
    IsWellFormed pair.1 ∧ IsWellFormed pair.2 := by
  have hparts := isWellFormed_of_mem_splitOn (u := 61) (by decide) hpiece
  have hundefined : IsWellFormed (text "undefined") := ⟨_, rfl⟩
  obtain ⟨key, hkey, h⟩ := Option.bind_eq_some_iff.mp h
  obtain ⟨value, hvalue, h⟩ := Option.bind_eq_some_iff.mp h
  cases h
  have hdefault : ∀ i : ℕ, IsWellFormed ((piece.splitOn 61)[i]?.getD (text "undefined")) := by
    intro i
    cases hpart : (piece.splitOn 61)[i]? with
    | none => exact hundefined
    | some part => exact hparts part (List.mem_of_getElem? hpart)
  exact ⟨isWellFormed_of_decodeURIComponent hkey (hdefault 0),
    isWellFormed_of_decodeURIComponent hvalue (hdefault 1)⟩

theorem IsUrl.readable {url : Text} (h : IsUrl url) : Readable url := by
  have hline : (hash url).any isLineTerminator = false := by
    rw [List.any_eq_false]
    intro u hu
    rw [h.noLineBreak u ((List.dropWhile_sublist _).subset hu)]
    exact Bool.false_ne_true
  obtain ⟨parts, hparts⟩ := exists_matches hline
  obtain ⟨pairs, hpairs⟩ := Option.isSome_iff_exists.mp (mapM_isSome.mpr fun piece hpiece ↦
    (decodePair_isSome piece).mpr fun part hpart ↦
      h.escapes piece hpiece part (List.mem_of_mem_take hpart))
  refine ⟨parts, pairs, hparts, hpairs, fun pair hpair ↦ ?_⟩
  obtain ⟨piece, hpiece, hdecode⟩ := exists_of_mem_mapM hpairs hpair
  have hquery := isWellFormed_query hparts h.wellFormed
  refine isWellFormed_of_decodePair hdecode ?_
  unfold pieces at hpiece
  split_ifs at hpiece with hnil
  · cases hpiece
  · exact isWellFormed_of_mem_splitOn (by decide) hquery piece hpiece

theorem mem_dataParams {data : Option Text} {p : Text × Option Text} :
    p ∈ (dataParams data).items ↔ p = (QUERY_KEY, data) :=
  List.mem_singleton

/-- The data that was set is read from the pairs that are written. -/
theorem get?_dataParams (o : SearchParams) (data : Option Text) :
    ((assignAll ((definedEntries (spread o (dataParams data))).map property)).get?
      QUERY_KEY).join = data := by
  have hnodup := nodup_definedEntries (spread o (dataParams data))
  rw [← fst_property] at hnodup
  have honly : (entries (spread o (dataParams data))).filter (fun q ↦ q.1 = QUERY_KEY) =
      [(QUERY_KEY, data)] :=
    filter_entries_spread_of_mem (mem_dataParams.mpr rfl)
  have hkey : QUERY_KEY ≠ proto := by decide +kernel
  cases data with
  | some value =>
    have hmem : (QUERY_KEY, some value) ∈ entries (spread o (dataParams (some value))) := by
      refine List.mem_of_mem_filter (p := fun q ↦ q.1 = QUERY_KEY) ?_
      rw [honly]
      exact List.mem_singleton_self _
    have hpair : (QUERY_KEY, value) ∈ definedEntries (spread o (dataParams (some value))) :=
      mem_definedEntries.mpr hmem
    rw [(get?_assignAll hnodup hkey).mpr (List.mem_map_of_mem hpair)]
    rfl
  | none =>
    cases hget : (assignAll ((definedEntries (spread o (dataParams none))).map property)).get?
      QUERY_KEY with
    | none => rfl
    | some value =>
      -- a written pair with this key would be a second property of the object
      obtain ⟨pair, hpair, heq⟩ := List.mem_map.mp ((get?_assignAll hnodup hkey).mp hget)
      have hmem : property pair ∈ (entries (spread o (dataParams none))).filter
          fun q ↦ q.1 = QUERY_KEY :=
        List.mem_filter.mpr ⟨mem_definedEntries.mp hpair,
          decide_eq_true (congrArg Prod.fst heq)⟩
      rw [honly, List.mem_singleton] at hmem
      exact absurd (congrArg Prod.snd hmem) (Option.some_ne_none pair.2)

/-- What setting one parameter does to a readable URL. -/
theorem setSearchParams_dataParams {url : Text} (h : Readable url) {data : Option Text}
    (hdata : ∀ value, data = some value → IsWellFormed value) :
    ∃ result, setSearchParams url (dataParams data) = some result ∧ Readable result ∧
      hash result = hash url ∧ getDataFromUrl result = some (data.getD []) := by
  obtain ⟨parts, pairs, hparts, hpairs, hwell⟩ := h
  have hwritable : ∀ pair ∈ definedEntries
      (spread (assignAll (pairs.map property)) (dataParams data)),
      IsWellFormed pair.1 ∧ IsWellFormed pair.2 := by
    intro pair hpair
    rcases mem_of_mem_entries_spread (mem_definedEntries.mp hpair) with hmem | hmem
    · have hmem := (mem_of_mem_entries_assignAll (mem_entries.mpr hmem)).1
      exact hwell pair ((List.mem_map_of_injective property_injective).mp hmem)
    · have heq := mem_dataParams.mp hmem
      refine ⟨?_, hdata pair.2 (congrArg Prod.snd heq).symm⟩
      rw [show pair.1 = QUERY_KEY from congrArg Prod.fst heq]
      exact ⟨_, rfl⟩
  obtain ⟨written, hwritten⟩ := Option.isSome_iff_exists.mp (mapM_isSome.mpr fun pair hpair ↦
    (encodePair_isSome pair).mpr (hwritable pair hpair))
  have hresult := matches_join ⟨url, hparts⟩ (sharp_notMem_written hwritten)
  refine ⟨_, (setSearchParams_of_matches hparts).mpr ⟨pairs, written, hpairs, hwritten, rfl⟩,
    ⟨_, _, hresult, ?_, hwritable⟩, ?_, ?_⟩
  · rw [pieces_join hwritten ⟨url, hparts⟩, mapM_decodePair_written hwritten]
  · rw [hash_of_matches hresult, hash_of_matches hparts]
  · rw [getDataFromUrl, getSearchParams_join hwritten ⟨url, hparts⟩]
    exact congrArg (fun value ↦ some (value.getD [])) (get?_dataParams _ data)

theorem data_round_trip {url data : Text} (hurl : IsUrl url) (hdata : IsWellFormed data) :
    ∃ result, setDataToUrl url data = some result ∧ hash result = hash url ∧
      getDataFromUrl result = some data ∧
      (∃ removed, removeDataFromUrl result = some removed ∧ hash removed = hash url ∧
        getDataFromUrl removed = some []) ∧
      ∃ removed, removeDataFromUrl url = some removed ∧ hash removed = hash url ∧
        getDataFromUrl removed = some [] := by
  have hnone : ∀ value, (none : Option Text) = some value → IsWellFormed value := by
    intro value h
    cases h
  have hsome : ∀ value, some data = some value → IsWellFormed value := by
    intro value h
    rw [← Option.some.inj h]
    exact hdata
  obtain ⟨result, hset, hreadable, hhash, hget⟩ := setSearchParams_dataParams hurl.readable hsome
  obtain ⟨removed, hremove, -, hhash', hget'⟩ := setSearchParams_dataParams hreadable hnone
  obtain ⟨direct, hdirect, -, hhash'', hget''⟩ := setSearchParams_dataParams hurl.readable hnone
  exact ⟨result, hset, hhash, hget, ⟨removed, hremove, hhash'.trans hhash, hget'⟩,
    direct, hdirect, hhash'', hget''⟩

theorem data_round_trip_witness :
    IsUrl (text "/p?a=%D1%8F&b#h") ∧ IsWellFormed (text "x=1&я") ∧
      ∃ result, setDataToUrl (text "/p?a=%D1%8F&b#h") (text "x=1&я") = some result ∧
        hash result = text "#h" ∧ getDataFromUrl result = some (text "x=1&я") := by
  have hline : (text "/p?a=%D1%8F&b#h").any isLineTerminator = false := by decide +kernel
  have hurl : IsUrl (text "/p?a=%D1%8F&b#h") :=
    ⟨⟨_, rfl⟩, fun u hu ↦ Bool.eq_false_iff.mpr (List.any_eq_false.mp hline u hu),
      by decide +kernel⟩
  have hdata : IsWellFormed (text "x=1&я") := ⟨_, rfl⟩
  obtain ⟨result, hset, hhash, hget, -⟩ := data_round_trip hurl hdata
  refine ⟨hurl, hdata, result, hset, ?_, hget⟩
  rw [hhash]
  decide +kernel

end YandexPay.Url
