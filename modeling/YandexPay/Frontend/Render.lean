import YandexPay.Library.Delimited
import YandexPay.Library.Dict
import YandexPay.Library.GlobalMatch
import Mathlib.Data.List.TakeWhile

/-!
# Rendering of page templates

`render` replaces the placeholders of a template by values, in JSON between `%%` and verbatim
between `##`, and then gives the nonce to the script tags that it finds in the result. A value is
never read as part of a template, and the script tags are those of the text of the template, unless
a placeholder stands directly after the beginning of a tag. A script tag is what the pattern of
`addNonce` matches. Texts are lists of characters, as no pattern tells the halves of a surrogate
pair apart.
-/

set_option autoImplicit false
set_option relaxedAutoImplicit false

namespace YandexPay.Render

/-! ### The two patterns -/

/-- What `.` does not match. -/
def isLineTerminator (c : Char) : Bool := c.toNat ∈ [10, 13, 0x2028, 0x2029]

/-- What `\w` matches. -/
def isWordChar (c : Char) : Bool := c.isAlphanum || c = '_'

/-- What `['"]` matches. -/
def isQuote (c : Char) : Bool := c.toNat ∈ [34, 39]

/-- What `['"]?` matches. -/
def quoteAt (s : List Char) : List Char := (s.take 1).filter isQuote

/-- What `.+?` matches before the delimiter written twice. -/
def innerAt (d : Char) : List Char → Option (List Char)
  | [] => none
  | c :: rest =>
    if isLineTerminator c then none
    else if rest.take 2 = [d, d] then some [c]
    else (innerAt d rest).map (c :: ·)

/-- What `%%.+?%%` matches, or `##.+?##`. -/
def delimitedAt (d : Char) (s : List Char) : Option (List Char) :=
  if s.take 2 = [d, d] then (innerAt d (s.drop 2)).map fun inner ↦ [d, d] ++ inner ++ [d, d]
  else none

/-- What `['"]?%%.+?%%['"]?` matches. -/
def jsonPlaceholderAt (s : List Char) : Option (List Char) :=
  (delimitedAt '%' (s.drop (quoteAt s).length)).map fun m ↦
    quoteAt s ++ m ++ quoteAt (s.drop ((quoteAt s).length + m.length))

/-- What the pattern of `render` matches other than the empty text. -/
def placeholderAt (s : List Char) : Option (List Char) :=
  (jsonPlaceholderAt s).or (delimitedAt '#' s)

def scriptStart : List Char := ['<', 's', 'c', 'r', 'i', 'p', 't']

/-- What `(.*?)` passes before `>`. -/
def isAttrChar (c : Char) : Bool := c ≠ '>' && !isLineTerminator c

/-- The attributes in what `<script(.*?)>` matches. -/
def scriptAt (s : List Char) : Option (List Char) :=
  let attrs := (s.drop scriptStart.length).takeWhile isAttrChar
  if scriptStart <+: s ∧ (s.drop (scriptStart.length + attrs.length)).head? = some '>' then
    some attrs
  else none

theorem quoteAt_append_drop (s : List Char) : quoteAt s ++ s.drop (quoteAt s).length = s := by
  cases s with
  | nil => rfl
  | cons c rest => by_cases hc : isQuote c <;> simp [quoteAt, hc]

theorem innerAt_eq_some {d : Char} {s inner : List Char} (h : innerAt d s = some inner) :
    ∃ rest, s = inner ++ [d, d] ++ rest := by
  induction s generalizing inner with
  | nil => cases h
  | cons c s ih =>
    unfold innerAt at h
    split_ifs at h with hline hclose
    · obtain rfl : [c] = inner := Option.some.inj h
      exact ⟨s.drop 2, by rw [← hclose, List.append_assoc, List.take_append_drop]; rfl⟩
    · obtain ⟨inner', hinner, rfl⟩ := Option.map_eq_some_iff.mp h
      obtain ⟨rest, hrest⟩ := ih hinner
      exact ⟨rest, by rw [hrest]; rfl⟩

theorem delimitedAt_eq_some {d : Char} {s m : List Char} (h : delimitedAt d s = some m) :
    m ≠ [] ∧ ∃ rest, s = m ++ rest := by
  unfold delimitedAt at h
  split_ifs at h with hopen
  obtain ⟨inner, hinner, rfl⟩ := Option.map_eq_some_iff.mp h
  obtain ⟨rest, hrest⟩ := innerAt_eq_some hinner
  refine ⟨by simp, rest, ?_⟩
  calc s = s.take 2 ++ s.drop 2 := (List.take_append_drop 2 s).symm
    _ = [d, d] ++ inner ++ [d, d] ++ rest := by simp [hopen, hrest]

theorem placeholderAt_eq_some {s m : List Char} (h : placeholderAt s = some m) :
    m ≠ [] ∧ ∃ rest, s = m ++ rest := by
  rcases Option.or_eq_some_iff.mp h with hjson | ⟨-, hraw⟩
  · obtain ⟨inner, hinner, rfl⟩ := Option.map_eq_some_iff.mp hjson
    obtain ⟨hne, rest, hrest⟩ := delimitedAt_eq_some hinner
    have hdrop : s.drop ((quoteAt s).length + inner.length) = rest := by
      rw [← List.drop_drop, hrest, List.drop_left]
    refine ⟨by simp [hne], rest.drop (quoteAt rest).length, ?_⟩
    calc s = quoteAt s ++ (inner ++ rest) := by rw [← hrest, quoteAt_append_drop]
      _ = quoteAt s ++ inner ++ (quoteAt rest ++ rest.drop (quoteAt rest).length) := by
        rw [quoteAt_append_drop, List.append_assoc]
      _ = quoteAt s ++ inner ++ quoteAt (s.drop ((quoteAt s).length + inner.length)) ++
          rest.drop (quoteAt rest).length := by rw [hdrop, List.append_assoc _ (quoteAt rest)]
  · exact delimitedAt_eq_some hraw

theorem scriptAt_eq_some_iff {s attrs : List Char} : scriptAt s = some attrs ↔
    (∀ c ∈ attrs, isAttrChar c = true) ∧ ∃ rest, s = scriptStart ++ attrs ++ '>' :: rest := by
  simp only [scriptAt, Option.ite_none_right_eq_some, Option.some.injEq]
  constructor
  · rintro ⟨⟨⟨tail, rfl⟩, hclose⟩, rfl⟩
    rw [List.drop_left] at hclose ⊢
    refine ⟨fun c hc ↦ List.mem_takeWhile_imp hc, ?_⟩
    rw [← List.drop_drop, List.drop_left] at hclose
    have hsplit := List.takeWhile_append_dropWhile (p := isAttrChar) (l := tail)
    have hdrop := congrArg (List.drop (tail.takeWhile isAttrChar).length) hsplit
    rw [List.drop_left] at hdrop
    obtain ⟨rest, hrest⟩ := List.head?_eq_some_iff.mp hclose
    exact ⟨rest, by rw [← hrest, ← hdrop, List.append_assoc, hsplit]⟩
  · rintro ⟨hattrs, rest, rfl⟩
    have htake : (attrs ++ '>' :: rest).takeWhile isAttrChar = attrs := by
      rw [List.takeWhile_append_of_pos hattrs, List.takeWhile_cons_of_neg (by decide),
        List.append_nil]
    rw [List.append_assoc, List.drop_left, htake]
    refine ⟨⟨List.prefix_append _ _, ?_⟩, rfl⟩
    rw [← List.drop_drop, List.drop_left, List.drop_left]
    rfl

def placeholders : Pattern Char (List Char) where
  matchAt := placeholderAt
  text m := m
  text_ne_nil h := (placeholderAt_eq_some h).1
  eq_append h := (placeholderAt_eq_some h).2

def scripts : Pattern Char (List Char) where
  matchAt := scriptAt
  text attrs := scriptStart ++ attrs ++ ['>']
  text_ne_nil _ := by simp
  eq_append h := by simpa using (scriptAt_eq_some_iff.mp h).2

/-! ### Rendering -/

inductive RenderValue where
  | string (s : List Char)
  /-- A number, given by its text. -/
  | number (text : List Char)
  | boolean (b : Bool)

/-- `String(value)` -/
def RenderValue.toText : RenderValue → List Char
  | string s => s
  | number text => text
  | boolean true => ['t', 'r', 'u', 'e']
  | boolean false => ['f', 'a', 'l', 's', 'e']

abbrev RenderData : Type := Dict (List Char) RenderValue

/-- `serialize` of `serialize-javascript` with `isJSON`. -/
structure Serializer where
  serialize : RenderValue → List Char
  escapes : ∀ value, ∀ c ∈ serialize value, c ≠ '<' ∧ c ≠ '>' ∧ c ≠ '/'

/-- `match.replace(replaceKeyRegex, '')` -/
def keyOf (m : List Char) : List Char := m.filter isWordChar

def isRaw (m : List Char) : Prop := m.head? = some '#'

instance (m : List Char) : Decidable (isRaw m) := inferInstanceAs (Decidable (_ = _))

/-- The function that `render` replaces a match by. -/
def replaceMatch (z : Serializer) (data : RenderData) (m : List Char) : List Char :=
  match data.get? (keyOf m) with
  | none => []
  | some value => if isRaw m then value.toText else z.serialize value

/-- `tpl.replace(…)`: the pattern also matches the empty text before every character that is
passed and at the end. -/
def substitute (z : Serializer) (data : RenderData) (tpl : List Char) : List Char :=
  (placeholders.segments tpl).flatMap (fun
    | .char c => replaceMatch z data [] ++ [c]
    | .found m => replaceMatch z data m) ++ replaceMatch z data []

/-- `attrs.includes(word)` -/
def includes (attrs word : List Char) : Bool := attrs.tails.any word.isPrefixOf

def src : List Char := ['s', 'r', 'c']

def addNonce (template nonce : List Char) : List Char :=
  scripts.replace (fun attrs ↦
    if includes attrs src then scripts.text attrs
    else "<script nonce=\"".toList ++ nonce ++ "\" ".toList ++ attrs ++ ['>']) template

def render (z : Serializer) (tpl : List Char) (data : RenderData) (nonce : Option (List Char)) :
    List Char :=
  let template := substitute z data tpl
  match nonce with
  | none => template
  | some nonce => if nonce = [] then template else addNonce template nonce

/-! ### What a template says -/

/-- The runs of text between the placeholders of a template. -/
inductive Template where
  | last (run : List Char)
  | next (run : List Char) (placeholder : List Char) (rest : Template)

namespace Template

def cons (c : Char) : Template → Template
  | last run => last (c :: run)
  | next run m rest => next (c :: run) m rest

def ofSegments : List (Segment Char (List Char)) → Template
  | [] => last []
  | .char c :: l => (ofSegments l).cons c
  | .found m :: l => next [] m (ofSegments l)

def parse (tpl : List Char) : Template := ofSegments (placeholders.segments tpl)

end Template

/-- A piece of a template: a character or a script tag of its text, or a placeholder. -/
inductive Piece where
  | text (segment : Segment Char (List Char))
  | value (placeholder : List Char)

/-- The pieces of a template. The text is cut run by run. -/
def Template.pieces : Template → List Piece
  | last run => (scripts.segments run).map .text
  | next run m rest => (scripts.segments run).map .text ++ .value m :: rest.pieces

/-- The attributes of a script tag in the output. -/
def withNonce (nonce : Option (List Char)) (attrs : List Char) : List Char :=
  match nonce with
  | none => attrs
  | some nonce =>
    if nonce = [] ∨ includes attrs src then attrs
    else " nonce=\"".toList ++ nonce ++ "\" ".toList ++ attrs

def Piece.write (z : Serializer) (data : RenderData) (nonce : Option (List Char)) :
    Piece → List Char
  | text segment => segment.write fun attrs ↦ scripts.text (withNonce nonce attrs)
  | value m => replaceMatch z data m

/-- The attributes of the script tags in the text of a template. -/
def templateTags (tpl : List Char) : List (List Char) :=
  (Template.parse tpl).pieces.filterMap fun
    | .text segment => segment.found?
    | .value _ => none

/-- The placeholders of a template. -/
def templateValues (tpl : List Char) : List (List Char) :=
  (Template.parse tpl).pieces.filterMap fun
    | .text _ => none
    | .value m => some m

/-- The attributes of the script tags that are found in a page. -/
def scriptTags (page : List Char) : List (List Char) :=
  (scripts.segments page).filterMap Segment.found?

/-- A beginning of a script tag that is not the whole tag. -/
def OpenScript (s : List Char) : Prop :=
  s ≠ [] ∧ s.take scriptStart.length <+: scriptStart ∧
    (s.drop scriptStart.length).all isAttrChar = true

instance (s : List Char) : Decidable (OpenScript s) := inferInstanceAs (Decidable (_ ∧ _ ∧ _))

/-- No placeholder stands directly after the beginning of a script tag. -/
def Template.Apart : Template → Prop
  | last _ => True
  | next run _ rest => (∀ s ∈ run.tails, ¬ OpenScript s) ∧ rest.Apart

instance Template.decidableApart : (t : Template) → Decidable t.Apart
  | last _ => .isTrue trivial
  | next run _ rest =>
    haveI := rest.decidableApart
    inferInstanceAs (Decidable ((∀ s ∈ run.tails, ¬ OpenScript s) ∧ rest.Apart))

/-! ### The script tags of a text -/

theorem isLocal_scripts : scripts.IsLocal := by
  intro s attrs h rest
  exact scriptAt_eq_some_iff.mpr ⟨(scriptAt_eq_some_iff.mp h).1, rest, by simp [scripts]⟩

theorem matchAt_text_scripts {attrs : List Char} (h : ∀ c ∈ attrs, isAttrChar c = true) :
    scripts.matchAt (scripts.text attrs) = some attrs :=
  scriptAt_eq_some_iff.mpr ⟨h, [], rfl⟩

theorem matchAt_scripts_eq_none {c : Char} (hc : c ≠ '<') (rest : List Char) :
    scripts.matchAt (c :: rest) = none := by
  rw [Option.eq_none_iff_forall_ne_some]
  intro attrs h
  obtain ⟨-, rest', heq⟩ := scriptAt_eq_some_iff.mp h
  exact hc (List.cons.inj heq).1

theorem openScript_of_opens {s : List Char} (h : scripts.Opens s) : OpenScript s := by
  obtain ⟨hne, attrs, rest, hmatch, hrest, htext⟩ := h
  have hattrs := (scriptAt_eq_some_iff.mp hmatch).1
  have hlength : s.length ≤ (scriptStart ++ attrs).length := by
    have hsum := congrArg List.length htext
    have hpos := List.length_pos_iff.mpr hrest
    simp only [scripts, List.length_append, List.length_singleton] at hsum ⊢
    omega
  have hprefix : s <+: scriptStart ++ attrs :=
    List.prefix_of_prefix_length_le ⟨rest, htext.symm⟩ (List.prefix_append _ _) hlength
  refine ⟨hne, ?_, List.all_eq_true.mpr fun c hc ↦ hattrs c ?_⟩
  · simpa using hprefix.take scriptStart.length
  · have hdrop := hprefix.drop scriptStart.length
    rw [List.drop_left] at hdrop
    exact hdrop.subset hc

/-- A text up to the first `>` in what `addNonce` makes of it is a text up to the first `>`, or it
ends in a script tag. -/
theorem cut_replace_scripts {f : List Char → List Char}
    (hf : ∀ attrs, (∀ c ∈ attrs, isAttrChar c = true) → ∀ c ∈ f attrs, isAttrChar c = true)
    {s before after : List Char} (hbefore : '>' ∉ before)
    (h : scripts.replace (fun attrs ↦ scripts.text (f attrs)) s = before ++ '>' :: after) :
    (∃ rest, s = before ++ '>' :: rest) ∨
      ∃ passed attrs rest, before = passed ++ scriptStart ++ f attrs ∧
        (∀ c ∈ attrs, isAttrChar c = true) ∧ s = passed ++ scripts.text attrs ++ rest := by
  induction s using Pattern.scan_induction (p := scripts) generalizing before with
  | nil => cases before <;> cases h
  | found attrs rest hmatch ih =>
    have hattrs := (scriptAt_eq_some_iff.mp hmatch).1
    rw [Pattern.replace_found _ hmatch] at h
    have hfirst : '>' ∉ scriptStart ++ f attrs := by
      rw [List.mem_append, not_or]
      exact ⟨by decide, fun hmem ↦ absurd (hf attrs hattrs _ hmem) (by decide)⟩
    have hcut := congrArg (List.takeWhile (· ≠ '>')) h
    rw [(Delimited.takeWhile_dropWhile_of_notMem hbefore after).1] at hcut
    have htext : scripts.text (f attrs) = scriptStart ++ f attrs ++ ['>'] := rfl
    rw [htext, List.append_assoc, List.singleton_append,
      (Delimited.takeWhile_dropWhile_of_notMem hfirst _).1] at hcut
    exact Or.inr ⟨[], attrs, rest, hcut.symm, hattrs, rfl⟩
  | char c rest hmatch ih =>
    rw [Pattern.replace_char _ hmatch] at h
    cases before with
    | nil => exact Or.inl ⟨rest, by rw [(List.cons.inj h).1]; rfl⟩
    | cons b before =>
      obtain ⟨rfl, htail⟩ := List.cons.inj h
      rw [List.mem_cons, not_or] at hbefore
      rcases ih hbefore.2 htail with ⟨rest', rfl⟩ | ⟨passed, attrs, rest', rfl, hattrs, rfl⟩
      · exact Or.inl ⟨rest', rfl⟩
      · exact Or.inr ⟨c :: passed, attrs, rest', rfl, hattrs, rfl⟩

/-- No script tag arises from the replacement of script tags by script tags. -/
theorem matchAt_replace_scripts {f : List Char → List Char}
    (hf : ∀ attrs, (∀ c ∈ attrs, isAttrChar c = true) → ∀ c ∈ f attrs, isAttrChar c = true)
    {c : Char} {rest : List Char} (hnone : scripts.matchAt (c :: rest) = none) :
    scripts.matchAt (c :: scripts.replace (fun attrs ↦ scripts.text (f attrs)) rest) = none := by
  rw [Option.eq_none_iff_forall_ne_some] at hnone ⊢
  intro attrs h
  obtain ⟨hattrs, after, heq⟩ := scriptAt_eq_some_iff.mp h
  obtain ⟨rfl, htail⟩ := List.cons.inj heq
  have hbefore : '>' ∉ scriptStart.tail ++ attrs := by
    rw [List.mem_append, not_or]
    exact ⟨by decide, fun hmem ↦ absurd (hattrs _ hmem) (by decide)⟩
  rcases cut_replace_scripts hf hbefore htail with
    ⟨rest', rfl⟩ | ⟨passed, inner, rest', hpassed, hinner, rfl⟩
  · exact hnone attrs (scriptAt_eq_some_iff.mpr ⟨hattrs, rest', rfl⟩)
  · -- The tag that follows starts behind the first `<script`, as `script` holds no `<`.
    obtain ⟨more, rfl, rfl⟩ : ∃ more, passed = scriptStart.tail ++ more ∧
        attrs = more ++ (scriptStart ++ f inner) := by
      rw [List.append_assoc] at hpassed
      rcases List.append_eq_append_iff.mp hpassed with ⟨more, heq, hmore⟩ | ⟨more, heq, hmore⟩
      · exact ⟨more, heq, hmore⟩
      · cases more with
        | nil => exact ⟨[], by simpa using heq.symm, hmore.symm⟩
        | cons b more =>
          have hmem : '<' ∈ scriptStart.tail := by
            rw [heq, ← (List.cons.inj hmore).1]
            exact List.mem_append_right _ List.mem_cons_self
          exact absurd hmem (by decide)
    refine hnone (more ++ scriptStart ++ inner) (scriptAt_eq_some_iff.mpr ⟨?_, rest', ?_⟩)
    · simp only [List.forall_mem_append] at hattrs ⊢
      exact ⟨⟨hattrs.1, hattrs.2.1⟩, hinner⟩
    · simp [scripts, scriptStart]

/-! ### The text of a filled template -/

/-- The text of a template whose placeholders have been filled. -/
def Template.fill (f : List Char → List Char) : Template → List Char
  | last run => run
  | next run m rest => run ++ f m ++ rest.fill f

/-- The segments of a piece: what fills a placeholder is passed character by character. -/
def Piece.segments (f : List Char → List Char) : Piece → List (Segment Char (List Char))
  | text segment => [segment]
  | value m => (f m).map .char

theorem fill_cons (f : List Char → List Char) (c : Char) (t : Template) :
    (t.cons c).fill f = c :: t.fill f := by
  cases t <;> rfl

theorem fill_ofSegments (f : List Char → List Char) (l : List (Segment Char (List Char))) :
    (Template.ofSegments l).fill f = l.flatMap (Segment.write f) := by
  induction l with
  | nil => rfl
  | cons segment l ih =>
    cases segment with
    | char c => exact (fill_cons f c _).trans (congrArg _ ih)
    | found m => exact congrArg _ ih

theorem substitute_eq_fill (z : Serializer) {data : RenderData} (hempty : data.get? [] = none)
    (tpl : List Char) :
    substitute z data tpl = (Template.parse tpl).fill (replaceMatch z data) := by
  have hnothing : replaceMatch z data [] = [] := by
    simp only [replaceMatch, keyOf, List.filter, hempty]
  rw [Template.parse, fill_ofSegments, substitute, hnothing, List.append_nil]
  refine List.flatMap_congr fun segment _ ↦ ?_
  cases segment <;> rfl

/-- The script tags of a filled template are found in the runs of its text. -/
theorem segments_fill {f : List Char → List Char} {t : Template} (hapart : t.Apart)
    (hf : ∀ m, Piece.value m ∈ t.pieces → '<' ∉ f m) :
    scripts.segments (t.fill f) = t.pieces.flatMap (Piece.segments f) := by
  have htext : ∀ run, ((scripts.segments run).map Piece.text).flatMap (Piece.segments f) =
      scripts.segments run := by
    intro run
    rw [List.flatMap_map]
    exact List.flatMap_singleton' _
  induction t with
  | last run => exact (htext run).symm
  | next run m rest ih =>
    have hrun : ∀ s, s <:+ run → ¬ scripts.Opens s := fun s hs hopens ↦
      hapart.1 s ((List.mem_tails s run).mpr hs) (openScript_of_opens hopens)
    have hvalue : ∀ c ∈ f m, ∀ rest, scripts.matchAt (c :: rest) = none := by
      intro c hc
      refine matchAt_scripts_eq_none fun heq ↦ ?_
      exact hf m (by simp [Template.pieces]) (heq ▸ hc)
    have hrest := ih hapart.2 fun m' hm' ↦ hf m' (by simp [Template.pieces, hm'])
    rw [Template.fill, List.append_assoc, Pattern.segments_append isLocal_scripts hrun,
      Pattern.segments_append_of_none hvalue, hrest, Template.pieces, List.flatMap_append,
      htext, List.flatMap_cons]
    rfl

/-! ### Rendering keeps the script tags -/

theorem isAttrChar_withNonce {nonce : Option (List Char)}
    (hnonce : ∀ n ∈ nonce, n.all isAttrChar = true) (attrs : List Char)
    (hattrs : ∀ c ∈ attrs, isAttrChar c = true) :
    ∀ c ∈ withNonce nonce attrs, isAttrChar c = true := by
  cases nonce with
  | none => exact hattrs
  | some n =>
    simp only [withNonce]
    split_ifs
    · exact hattrs
    · simp only [List.forall_mem_append]
      have hopen : (" nonce=\"".toList).all isAttrChar = true := by decide +kernel
      have hclose : ("\" ".toList).all isAttrChar = true := by decide +kernel
      exact ⟨⟨⟨List.all_eq_true.mp hopen, List.all_eq_true.mp (hnonce n rfl)⟩,
        List.all_eq_true.mp hclose⟩, hattrs⟩

theorem render_eq_replace (z : Serializer) (tpl : List Char) (data : RenderData)
    (nonce : Option (List Char)) : render z tpl data nonce =
      scripts.replace (fun attrs ↦ scripts.text (withNonce nonce attrs))
        (substitute z data tpl) := by
  cases nonce with
  | none => exact (Pattern.replace_text _).symm
  | some n =>
    by_cases hn : n = []
    · simp only [render, withNonce, if_pos hn, if_pos (Or.inl hn : n = [] ∨ _)]
      exact (Pattern.replace_text _).symm
    · simp only [render, if_neg hn, addNonce]
      congr 1
      funext attrs
      by_cases hsrc : includes attrs src
      · simp [withNonce, hsrc]
      · simp [withNonce, hsrc, hn, scripts, scriptStart]

theorem filterMap_found?_map (f : List Char → List Char) (l : List (Segment Char (List Char))) :
    (l.map (Segment.map f)).filterMap Segment.found? = (l.filterMap Segment.found?).map f := by
  rw [List.filterMap_map, List.map_filterMap]
  refine List.filterMap_congr fun segment _ ↦ ?_
  cases segment <;> rfl

theorem filterMap_found?_segments (f : List Char → List Char) (pieces : List Piece) :
    (pieces.flatMap (Piece.segments f)).filterMap Segment.found? = pieces.filterMap (fun
      | .text segment => segment.found?
      | .value _ => none) := by
  induction pieces with
  | nil => rfl
  | cons piece pieces ih =>
    rw [List.flatMap_cons, List.filterMap_append, ih]
    cases piece with
    | text segment => cases segment <;> rfl
    | value m =>
      have hnone : ((f m).map Segment.char).filterMap (Segment.found? (μ := List Char)) = [] := by
        rw [List.filterMap_map]
        exact List.filterMap_eq_nil_iff.mpr fun _ _ ↦ rfl
      exact congrArg (· ++ _) hnone

/-- If no placeholder stands directly after the beginning of a script tag, the values that are
written verbatim hold no `<`, and the nonce stays within its tag, then a page is its template with
every placeholder replaced by its value and the nonce in the script tags without `src`, and its
script tags are those of the text of the template. -/
theorem render_keeps_scripts (z : Serializer) (tpl : List Char) (data : RenderData)
    (nonce : Option (List Char)) (hapart : (Template.parse tpl).Apart)
    (hempty : data.get? [] = none)
    (hraw : ∀ m ∈ templateValues tpl, isRaw m → ∀ value ∈ data.get? (keyOf m),
      '<' ∉ value.toText)
    (hnonce : ∀ n ∈ nonce, n.all isAttrChar = true) :
    render z tpl data nonce = (Template.parse tpl).pieces.flatMap (Piece.write z data nonce) ∧
      scriptTags (render z tpl data nonce) = (templateTags tpl).map (withNonce nonce) := by
  have hvalue : ∀ m, Piece.value m ∈ (Template.parse tpl).pieces →
      '<' ∉ replaceMatch z data m := by
    intro m hm
    have hmem : m ∈ templateValues tpl := List.mem_filterMap.mpr ⟨.value m, hm, rfl⟩
    unfold replaceMatch
    cases hget : data.get? (keyOf m) with
    | none => exact List.not_mem_nil
    | some value =>
      by_cases hm' : isRaw m
      · simpa only [if_pos hm'] using hraw m hmem hm' value hget
      · simp only [if_neg hm']
        exact fun hc ↦ (z.escapes value _ hc).1 rfl
  have hsegments := segments_fill hapart hvalue
  rw [← substitute_eq_fill z hempty] at hsegments
  rw [render_eq_replace]
  constructor
  · rw [Pattern.replace, hsegments, List.flatMap_assoc]
    refine List.flatMap_congr fun piece _ ↦ ?_
    cases piece with
    | text segment => exact List.flatMap_singleton _ _
    | value m =>
      rw [Piece.segments, List.flatMap_map]
      exact List.flatMap_singleton' _
  · have hcut := Pattern.segments_replace isLocal_scripts
      (fun s attrs h ↦ matchAt_text_scripts (isAttrChar_withNonce hnonce attrs
        (scriptAt_eq_some_iff.mp h).1))
      (fun c rest h ↦ matchAt_replace_scripts (isAttrChar_withNonce hnonce) h)
      (substitute z data tpl)
    rw [scriptTags, hcut, filterMap_found?_map, hsegments, filterMap_found?_segments]
    rfl

theorem safe_of_all {l : List Char}
    (h : l.all (fun c ↦ c ≠ '<' ∧ c ≠ '>' ∧ c ≠ '/') = true) {c : Char} (hc : c ∈ l) :
    c ≠ '<' ∧ c ≠ '>' ∧ c ≠ '/' :=
  of_decide_eq_true (List.all_eq_true.mp h c hc)

/-- A serializer, which writes JSON and then escapes what is unsafe in a page. -/
def jsonSerializer : Serializer where
  serialize value :=
    let json := match value with
      | .string s => '"' :: s.flatMap (fun c : Char ↦
          if c.toNat ∈ [34, 92] then [Char.ofNat 92, c] else [c]) ++ ['"']
      | value => value.toText
    json.flatMap fun c ↦
      if c = '<' then "\\u003C".toList
      else if c = '>' then "\\u003E".toList
      else if c = '/' then "\\u002F".toList
      else [c]
  escapes value c hc := by
    obtain ⟨d, -, hd⟩ := List.mem_flatMap.mp hc
    split_ifs at hd with h₁ h₂ h₃
    · exact safe_of_all (by decide +kernel) hd
    · exact safe_of_all (by decide +kernel) hd
    · exact safe_of_all (by decide +kernel) hd
    · rw [List.mem_singleton.mp hd]
      exact ⟨h₁, h₂, h₃⟩

def samplePage : List Char :=
  "<title>##title##</title><script>f('%%user%%')</script><script src=a.js></script>".toList

def sampleData : RenderData :=
  Dict.ofList [("title".toList, .string "A > B".toList),
    ("user".toList, .string "</script><script>".toList)]

theorem render_keeps_scripts_witness :
    String.ofList (render jsonSerializer samplePage sampleData (some "n1".toList)) =
        "<title>A > B</title><script nonce=\"n1\" >f(\"\\u003C\\u002Fscript\\u003E\\u003Cscript" ++
          "\\u003E\")</script><script src=a.js></script>" ∧
      scriptTags (render jsonSerializer samplePage sampleData (some "n1".toList)) =
        [" nonce=\"n1\" ".toList, " src=a.js".toList] := by
  have h := render_keeps_scripts jsonSerializer samplePage sampleData (some "n1".toList)
    (by decide +kernel) (by decide +kernel) (by decide +kernel) (by decide +kernel)
  refine ⟨?_, h.2.trans (by decide +kernel)⟩
  rw [h.1]
  decide +kernel

/-- A value of letters only completes a script tag, or takes the nonce from one; a value under the
empty name breaks the tags; and a nonce that closes its tag brings a tag of its own. -/
theorem values_change_tags :
    (templateTags "<##tag##>".toList = [] ∧
      scriptTags (render jsonSerializer "<##tag##>".toList
        (Dict.ofList [("tag".toList, .string "script".toList)]) none) = [[]]) ∧
    (scriptTags "<script ##mode##>".toList = [" ##mode##".toList] ∧
      scriptTags (render jsonSerializer "<script ##mode##>".toList
        (Dict.ofList [("mode".toList, .string "src".toList)]) (some "n1".toList)) =
          [" src".toList]) ∧
    (templateTags "<script>".toList = [[]] ∧
      scriptTags (render jsonSerializer "<script>".toList
        (Dict.ofList [([], .number "1".toList)]) none) = []) ∧
    templateTags "<script>".toList = [[]] ∧
      scriptTags (render jsonSerializer "<script>".toList Dict.empty
        (some "\"><script>".toList)) = [" nonce=\"\"".toList, []] := by
  decide +kernel

end YandexPay.Render
