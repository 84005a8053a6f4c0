import YandexPay.Library.Delimited
import YandexPay.Library.JsObject
import YandexPay.Library.Traverse

/-!
# Search parameters of a URL

`packages/utils/url` of the pay frontend. A URL is taken apart by a regular expression, its search
string by splitting at `&` and `=` into a plain object, and `setSearchParams` writes the object
again with the given parameters spread over it. A thrown `URIError` is `none`.

`base`, `hash` and `parameters` are what a URL says, independently of the code: the parameters are
the pieces of the query between `&`, a key up to the first `=` and a value after it.
`setsOnly_iff` is the exact condition under which the code changes nothing else in a URL.
-/

set_option autoImplicit false
set_option relaxedAutoImplicit false

namespace YandexPay.Url

open Delimited JsUri JsObject

/-! ### The code -/

/-- An undefined value is `none`. -/
abbrev SearchParams := Dict Text (Option Text)

structure UrlParts where
  poorUrl : Text
  search : Text
  hash : Text
deriving DecidableEq

/-- The characters that `.` does not match. -/
def isLineTerminator (u : CodeUnit) : Bool := u ∈ [10, 13, 0x2028, 0x2029]

/-- A match of `URL_PARTS_REGEXP`, `/^([^#?]*)?(\?[^#]*)?(#.*)?$/`; a group that took part in no
match is empty. -/
structure Matches (url : Text) (parts : UrlParts) : Prop where
  whole : url = parts.poorUrl ++ (parts.search ++ parts.hash)
  first : ∀ u ∈ parts.poorUrl, u ≠ 35 ∧ u ≠ 63
  second : parts.search = [] ∨ ∃ tail, parts.search = 63 :: tail ∧ 35 ∉ tail
  third : parts.hash = [] ∨
    ∃ tail, parts.hash = 35 :: tail ∧ ∀ u ∈ tail, isLineTerminator u = false

/-- `url.match(URL_PARTS_REGEXP)` -/
def matchUrlParts (url : Text) : Option UrlParts :=
  let poorUrl := url.takeWhile fun u ↦ u ≠ 35 ∧ u ≠ 63
  let rest := url.dropWhile fun u ↦ u ≠ 35 ∧ u ≠ 63
  let search := rest.takeWhile (· ≠ 35)
  let hash := rest.dropWhile (· ≠ 35)
  if hash.any isLineTerminator then none else some ⟨poorUrl, search, hash⟩

def getUrlParts (url : Text) : UrlParts := (matchUrlParts url).getD ⟨[], [], []⟩

def getSearchString (url : Text) : Text := (getUrlParts url).search.drop 1

def getHash (url : Text) : Text := (getUrlParts url).hash.drop 1

/-- One step of the `reduce`: the first two parts of a pair. -/
def decodePair (pair : Text) : Option (Text × Text) := do
  let key ← decodeURIComponent ((pair.splitOn 61)[0]?.getD (text "undefined"))
  let value ← decodeURIComponent ((pair.splitOn 61)[1]?.getD (text "undefined"))
  return (key, value)

def getSearchParams (url : Text) : Option SearchParams :=
  if getSearchString url = [] then some Dict.empty
  else do
    let pairs ← ((getSearchString url).splitOn 38).mapM decodePair
    return assignAll (pairs.map fun p ↦ (p.1, some p.2))

def encodePair (pair : Text × Text) : Option Text := do
  let key ← encodeURIComponent pair.1
  let value ← encodeURIComponent pair.2
  return key ++ 61 :: value

/-- `Object.entries(searchParams).filter(..)` -/
def definedEntries (searchParams : SearchParams) : List (Text × Text) :=
  (entries searchParams).filterMap fun p ↦ p.2.map (p.1, ·)

def createSearchString (searchParams : SearchParams) : Option Text := do
  let pairs ← (definedEntries searchParams).mapM encodePair
  return [38].intercalate pairs

/-- The `join('')` of `setSearchParams`. -/
def join (parts : UrlParts) (searchString : Text) : Text :=
  parts.poorUrl ++ ((if searchString = [] then [] else [63]) ++ searchString ++ parts.hash)

def setSearchParams (url : Text) (searchParams : SearchParams) : Option Text := do
  let current ← getSearchParams url
  let nextSearchString ← createSearchString (spread current searchParams)
  return join (getUrlParts url) nextSearchString

/-! ### What a URL says -/

def base (url : Text) : Text := url.takeWhile fun u ↦ u ≠ 35 ∧ u ≠ 63

/-- The hash with its `#`. -/
def hash (url : Text) : Text := url.dropWhile (· ≠ 35)

def query (url : Text) : Text := ((url.takeWhile (· ≠ 35)).dropWhile (· ≠ 63)).drop 1

def pieces (url : Text) : List Text := if query url = [] then [] else (query url).splitOn 38

/-- The key and the value of a piece; `none` for one that cannot be decoded. -/
def parameter (piece : Text) : Option Text × Option Text :=
  (decodeURIComponent (piece.takeWhile (· ≠ 61)),
    decodeURIComponent ((piece.dropWhile (· ≠ 61)).drop 1))

def parameters (url : Text) : List (Option Text × Option Text) := (pieces url).map parameter

/-! ### The parts -/

theorem dropWhile_eq_nil_or_cons (p : CodeUnit → Bool) (s : Text) :
    s.dropWhile p = [] ∨ ∃ u tail, s.dropWhile p = u :: tail ∧ p u = false := by
  cases h : s.dropWhile p with
  | nil => exact Or.inl rfl
  | cons u tail =>
    refine Or.inr ⟨u, tail, rfl, ?_⟩
    have hhead := List.head_dropWhile_not (p := p) (l := s) (by simp [h])
    simp only [h, List.head_cons] at hhead
    exact hhead

theorem matches_of_matchUrlParts {url : Text} {parts : UrlParts}
    (h : matchUrlParts url = some parts) : Matches url parts := by
  unfold matchUrlParts at h
  dsimp only at h
  split_ifs at h with hany
  cases h
  set rest := url.dropWhile fun u ↦ u ≠ 35 ∧ u ≠ 63 with hrest
  refine ⟨?_, ?_, ?_, ?_⟩
  · change url = _ ++ (rest.takeWhile _ ++ rest.dropWhile _)
    rw [List.takeWhile_append_dropWhile, hrest, List.takeWhile_append_dropWhile]
  · intro u hu
    exact of_decide_eq_true (List.mem_takeWhile_imp (p := fun u ↦ decide (u ≠ 35 ∧ u ≠ 63)) hu)
  · change rest.takeWhile _ = [] ∨ ∃ tail, rest.takeWhile _ = 63 :: tail ∧ _
    rcases dropWhile_eq_nil_or_cons (fun u ↦ u ≠ 35 ∧ u ≠ 63) url with hnil | ⟨u, tail, hcons, hu⟩
    · exact Or.inl (by rw [hrest, hnil]; rfl)
    · rw [← hrest] at hcons
      by_cases hsharp : u = 35
      · exact Or.inl (by rw [hcons, hsharp]; rfl)
      · have hquestion : u = 63 := by
          by_contra hne
          exact absurd hu (by simp [hsharp, hne])
        refine Or.inr ⟨tail.takeWhile (· ≠ 35), ?_, notMem_takeWhile_ne 35 tail⟩
        rw [hcons, hquestion]
        rfl
  · change rest.dropWhile _ = [] ∨ ∃ tail, rest.dropWhile _ = 35 :: tail ∧ _
    refine (dropWhile_eq_nil_or_cons (· ≠ 35) rest).imp id ?_
    rintro ⟨u, tail, hcons, hu⟩
    have hsharp : u = 35 := by simpa using hu
    subst hsharp
    refine ⟨tail, hcons, fun v hv ↦ ?_⟩
    rw [hcons, List.any_eq_true] at hany
    exact Bool.eq_false_iff.mpr fun hv' ↦ hany ⟨v, List.mem_cons_of_mem _ hv, hv'⟩

section Matches

variable {url : Text} {parts : UrlParts} (h : Matches url parts)
include h

theorem sharp_notMem_of_matches : 35 ∉ parts.poorUrl ++ parts.search := by
  intro hmem
  rcases List.mem_append.mp hmem with hmem | hmem
  · exact (h.first 35 hmem).1 rfl
  · rcases h.second with hnil | ⟨tail, hcons, htail⟩
    · rw [hnil] at hmem
      cases hmem
    · rw [hcons] at hmem
      rcases List.mem_cons.mp hmem with h | hmem
      · exact absurd h (by decide)
      · exact htail hmem

theorem beforeHash_of_matches : url.takeWhile (· ≠ 35) = parts.poorUrl ++ parts.search ∧
    url.dropWhile (· ≠ 35) = parts.hash := by
  rw [h.whole, ← List.append_assoc]
  rcases h.third with hnil | ⟨tail, hcons, -⟩
  · rw [hnil, List.append_nil]
    exact takeWhile_dropWhile_self (sharp_notMem_of_matches h)
  · rw [hcons]
    exact takeWhile_dropWhile_of_notMem (sharp_notMem_of_matches h) tail

theorem hash_of_matches : hash url = parts.hash := (beforeHash_of_matches h).2

theorem base_of_matches : base url = parts.poorUrl := by
  have hkept : ∀ u ∈ parts.poorUrl, decide (u ≠ 35 ∧ u ≠ 63) = true :=
    fun u hu ↦ decide_eq_true (h.first u hu)
  have hrest : (parts.search ++ parts.hash).takeWhile (fun u ↦ u ≠ 35 ∧ u ≠ 63) = [] := by
    rcases h.second with hnil | ⟨tail, hcons, -⟩
    · rcases h.third with hnil' | ⟨tail, hcons', -⟩
      · rw [hnil, hnil']
        rfl
      · rw [hnil, hcons']
        rfl
    · rw [hcons]
      rfl
  rw [base, h.whole, List.takeWhile_append_of_pos hkept, hrest, List.append_nil]

theorem query_of_matches : query url = parts.search.drop 1 := by
  have hkept : 63 ∉ parts.poorUrl := fun hmem ↦ (h.first 63 hmem).2 rfl
  rw [query, (beforeHash_of_matches h).1]
  rcases h.second with hnil | ⟨tail, hcons, -⟩
  · rw [hnil, List.append_nil, (takeWhile_dropWhile_self hkept).2]
  · rw [hcons, (takeWhile_dropWhile_of_notMem hkept tail).2]

end Matches

theorem dropWhile_eq_hash (url : Text) :
    (url.dropWhile fun u ↦ u ≠ 35 ∧ u ≠ 63).dropWhile (· ≠ 35) = hash url := by
  unfold hash
  induction url with
  | nil => rfl
  | cons u url ih =>
    by_cases hkept : u ≠ 35 ∧ u ≠ 63
    · rw [List.dropWhile_cons, if_pos (by simpa using hkept), ih, List.dropWhile_cons,
        if_pos (by simpa using hkept.1)]
    · rw [List.dropWhile_cons, if_neg (by simpa using hkept)]

/-- There is no match when the hash has a line terminator. -/
theorem matchUrlParts_eq_none {url : Text} :
    matchUrlParts url = none ↔ (hash url).any isLineTerminator = true := by
  unfold matchUrlParts
  dsimp only
  rw [dropWhile_eq_hash]
  split_ifs with h
  · exact iff_of_true rfl h
  · exact iff_of_false (by simp) h

/-- A match is the only one. -/
theorem matchUrlParts_eq_some_iff {url : Text} {parts : UrlParts} :
    matchUrlParts url = some parts ↔ Matches url parts := by
  refine ⟨matches_of_matchUrlParts, fun h ↦ ?_⟩
  cases hmatch : matchUrlParts url with
  | none =>
    rw [matchUrlParts_eq_none, hash_of_matches h] at hmatch
    obtain ⟨u, hu, hline⟩ := List.any_eq_true.mp hmatch
    rcases h.third with hnil | ⟨tail, hcons, htail⟩
    · rw [hnil] at hu
      cases hu
    · rw [hcons] at hu
      rcases List.mem_cons.mp hu with rfl | hu
      · exact absurd hline (by decide)
      · exact absurd hline (by rw [htail u hu]; decide)
  | some found =>
    have hfound := matches_of_matchUrlParts hmatch
    have hpoor : found.poorUrl = parts.poorUrl :=
      (base_of_matches hfound).symm.trans (base_of_matches h)
    have hhash : found.hash = parts.hash := (hash_of_matches hfound).symm.trans (hash_of_matches h)
    have hsearch : found.search = parts.search := by
      have hwhole := hfound.whole.symm.trans h.whole
      rw [hpoor, hhash] at hwhole
      exact List.append_cancel_right (List.append_cancel_left hwhole)
    obtain ⟨poorUrl, search, hash⟩ := found
    obtain ⟨poorUrl', search', hash'⟩ := parts
    dsimp only at hpoor hsearch hhash
    rw [hpoor, hsearch, hhash]

theorem getUrlParts_of_matches {url : Text} {parts : UrlParts} (h : Matches url parts) :
    getUrlParts url = parts := by
  rw [getUrlParts, matchUrlParts_eq_some_iff.mpr h]
  rfl

theorem getSearchString_of_matches {url : Text} {parts : UrlParts} (h : Matches url parts) :
    getSearchString url = query url := by
  rw [getSearchString, getUrlParts_of_matches h, query_of_matches h]

/-! ### What is written is read back -/

theorem encodePair_eq_some {pair : Text × Text} {written : Text}
    (h : encodePair pair = some written) : ∃ key value, encodeURIComponent pair.1 = some key ∧
      encodeURIComponent pair.2 = some value ∧ written = key ++ 61 :: value := by
  obtain ⟨key, hkey, h⟩ := Option.bind_eq_some_iff.mp h
  obtain ⟨value, hvalue, h⟩ := Option.bind_eq_some_iff.mp h
  exact ⟨key, value, hkey, hvalue, (Option.some.inj h).symm⟩

theorem delimiter_notMem_encodePair {pair : Text × Text} {written : Text}
    (h : encodePair pair = some written) {u : CodeUnit} (hu : u = 35 ∨ u = 38) :
    u ∉ written := by
  obtain ⟨key, value, hkey, hvalue, rfl⟩ := encodePair_eq_some h
  intro hmem
  rcases List.mem_append.mp hmem with hmem | hmem
  · exact delimiter_notMem_encodeURIComponent hkey (hu.imp id Or.inl) hmem
  · rcases List.mem_cons.mp hmem with rfl | hmem
    · exact absurd hu (by decide)
    · exact delimiter_notMem_encodeURIComponent hvalue (hu.imp id Or.inl) hmem

theorem parameter_of_encodePair {pair : Text × Text} {written : Text}
    (h : encodePair pair = some written) : parameter written = (some pair.1, some pair.2) := by
  obtain ⟨key, value, hkey, hvalue, rfl⟩ := encodePair_eq_some h
  have hequals : 61 ∉ key := delimiter_notMem_encodeURIComponent hkey (by simp)
  obtain ⟨hbefore, hafter⟩ := takeWhile_dropWhile_of_notMem hequals value
  rw [parameter, hbefore, hafter, List.drop_one, List.tail_cons,
    decodeURIComponent_of_encodeURIComponent hkey, decodeURIComponent_of_encodeURIComponent hvalue]

theorem decodePair_of_encodePair {pair : Text × Text} {written : Text}
    (h : encodePair pair = some written) : decodePair written = some pair := by
  obtain ⟨key, value, hkey, hvalue, rfl⟩ := encodePair_eq_some h
  have hsplit : (key ++ 61 :: value).splitOn 61 = [key, value] := by
    rw [List.splitOn_append_cons_self_of_not_mem
        (delimiter_notMem_encodeURIComponent hkey (by simp)),
      List.splitOn_eq_singleton (delimiter_notMem_encodeURIComponent hvalue (by simp))]
  rw [decodePair, hsplit]
  change (decodeURIComponent key).bind (fun k ↦ (decodeURIComponent value).bind _) = _
  rw [decodeURIComponent_of_encodeURIComponent hkey,
    decodeURIComponent_of_encodeURIComponent hvalue]
  rfl

theorem matches_join {parts : UrlParts} (hparts : ∃ url, Matches url parts) {searchString : Text}
    (hsharp : 35 ∉ searchString) : Matches (join parts searchString)
      ⟨parts.poorUrl, (if searchString = [] then [] else [63]) ++ searchString, parts.hash⟩ := by
  obtain ⟨url, h⟩ := hparts
  refine ⟨rfl, h.first, ?_, h.third⟩
  by_cases hnil : searchString = []
  · exact Or.inl (by rw [if_pos hnil, hnil]; rfl)
  · exact Or.inr ⟨searchString, by rw [if_neg hnil]; rfl, hsharp⟩

section Written

variable {pairs : List (Text × Text)} {written : List Text}
  (h : pairs.mapM encodePair = some written)
include h

theorem sharp_notMem_written : 35 ∉ [38].intercalate written := by
  refine notMem_intercalate (by decide) fun piece hpiece ↦ ?_
  obtain ⟨pair, -, hpair⟩ := exists_of_mem_mapM h hpiece
  exact delimiter_notMem_encodePair hpair (Or.inl rfl)

/-- A written search string is split into the written pairs. -/
theorem splitOn_written (hne : written ≠ []) :
    [38].intercalate written ≠ [] ∧ ([38].intercalate written).splitOn 38 = written := by
  have hsplit : ([38].intercalate written).splitOn 38 = written := by
    refine List.splitOn_intercalate 38 (fun piece hpiece ↦ ?_) hne
    obtain ⟨pair, -, hpair⟩ := exists_of_mem_mapM h hpiece
    exact delimiter_notMem_encodePair hpair (Or.inr rfl)
  refine ⟨fun hnil ↦ ?_, hsplit⟩
  rw [hnil, List.splitOn_nil] at hsplit
  obtain ⟨pair, -, hpair⟩ := exists_of_mem_mapM h (hsplit ▸ List.mem_singleton_self [])
  obtain ⟨key, value, -, -, heq⟩ := encodePair_eq_some hpair
  exact absurd heq.symm (by simp)

theorem mapM_decodePair_written : written.mapM decodePair = some pairs :=
  mapM_eq_some_iff.mpr
    ((mapM_eq_some_iff.mp h).imp fun _ _ ↦ decodePair_of_encodePair).flip

variable {parts : UrlParts} (hparts : ∃ url, Matches url parts)
include hparts

theorem query_join : query (join parts ([38].intercalate written)) = [38].intercalate written := by
  rw [query_of_matches (matches_join hparts (sharp_notMem_written h))]
  dsimp only
  split_ifs with hnil
  · rw [hnil]
    rfl
  · rfl

theorem pieces_join : pieces (join parts ([38].intercalate written)) = written := by
  rw [pieces, query_join h hparts]
  by_cases hne : written = []
  · rw [hne]
    rfl
  · obtain ⟨hnonempty, hsplit⟩ := splitOn_written h hne
    rw [if_neg hnonempty, hsplit]

theorem parameters_join : parameters (join parts ([38].intercalate written)) =
    pairs.map fun pair ↦ (some pair.1, some pair.2) := by
  rw [parameters, pieces_join h hparts]
  induction mapM_eq_some_iff.mp h with
  | nil => rfl
  | @cons pair first pairs written hfirst hrest ih =>
    rw [List.map_cons, List.map_cons, parameter_of_encodePair hfirst,
      ih (mapM_eq_some_iff.mpr hrest)]

/-- The pairs that were written are decoded again. -/
theorem getSearchParams_join : getSearchParams (join parts ([38].intercalate written)) =
    some (assignAll (pairs.map fun p ↦ (p.1, some p.2))) := by
  rw [getSearchParams, getSearchString_of_matches (matches_join hparts (sharp_notMem_written h)),
    query_join h hparts]
  by_cases hne : written = []
  · subst hne
    rw [List.forall₂_nil_right_iff.mp (mapM_eq_some_iff.mp h)]
    rfl
  · obtain ⟨hnonempty, hsplit⟩ := splitOn_written h hne
    rw [if_neg hnonempty, hsplit, mapM_decodePair_written h]
    rfl

end Written

end YandexPay.Url
