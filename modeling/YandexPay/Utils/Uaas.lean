import YandexPay.Library.Dict
import YandexPay.Library.PyJson
import YandexPay.Library.Traverse

/-!
# Flags of experiments

`UaasParser` reads the header of experiment flags: entries between commas, each a list of test items
in JSON, written in Base64. An entry that does not decode is skipped if the exception is one of
those that are caught, and an item without flags for the handler has none. What is of another shape
raises out of the constructor, or is read in part.
-/

set_option autoImplicit false
set_option relaxedAutoImplicit false

namespace YandexPay.Uaas

/-! ### The parser -/

/-- The flags, and the elements of the set of test ids in the order in which they were added. -/
structure UaasParser where
  expFlags : Dict String PyJson
  testids : List PyScalar

namespace UaasParser

def initial : UaasParser := ⟨Dict.empty, []⟩

section

variable (loads : Bytes → Except PyError PyJson) (handlerName : String)

def getTestitemFlags (testitem : PyJson) : Except PyError PyJson :=
  let flags := do
    let context ← testitem.get "CONTEXT" (.dict [])
    let main ← context.get "MAIN" (.dict [])
    main.get handlerName (.dict [])
  match flags with
  | .error .attributeError => .ok (.dict [])
  | result => result

/-- The body of the loop over the test items of an entry. -/
def addTestitem (p : UaasParser) (testitem : PyJson) : Except PyError UaasParser := do
  let handler ← testitem.get "HANDLER" .null
  if handler.isText handlerName then
    let testids ← testitem.get "TESTID" (.list [])
    let triggered ← (← testids.iterate).mapM PyJson.hash
    let testitemFlags ← getTestitemFlags handlerName testitem
    let flags ← testitemFlags.items
    return { expFlags := flags.foldl (fun d flag ↦ d.setDefault flag.1 flag.2) p.expFlags
             testids := p.testids ++ triggered }
  else return p

/-- `json.loads(base64.b64decode(exp_flag_raw))` -/
def decode (expFlagRaw : String) : Except PyError PyJson := do
  let data ← b64decode expFlagRaw
  loads data

/-- The body of the loop over the entries. -/
def addEntry (p : UaasParser) (expFlagRaw : String) : Except PyError UaasParser :=
  match decode loads expFlagRaw with
  | .error .binasciiError => .ok p
  | .error .jsonDecodeError => .ok p
  | .error e => .error e
  | .ok expFlag => do
    let testitems ← expFlag.iterate
    testitems.foldlM (addTestitem handlerName) p

/-- `exp_flags_raw.split(',')`, of a header that is there and not empty -/
def entries (expFlagsRaw : Option String) : List String :=
  match expFlagsRaw with
  | none => []
  | some raw => if raw = "" then [] else (raw.toList.splitOn ',').map String.ofList

/-- The constructor, by the value of the header `X-Yandex-ExpFlags`. -/
def parseFlags (expFlagsRaw : Option String) : Except PyError UaasParser := do
  let p ← (entries expFlagsRaw).foldlM (addEntry loads handlerName) initial
  -- `sorted(triggered_testids)`, for the log
  if PyScalar.Sortable p.testids then return p else throw .typeError

end

/-! ### What is well-formed -/

/-- Test ids and flags. -/
abbrev Contribution := List PyScalar × List (String × PyJson)

/-- The object under a key, empty where the key is absent. -/
def member (key : String) : PyJson → Option PyJson
  | .dict fields => some ((fields.lookup key).getD (.dict []))
  | _ => none

/-- The test ids of an item: a list of values that a set may hold. -/
def shapedTestids (fields : List (String × PyJson)) : Option (List PyScalar) :=
  match fields.lookup "TESTID" with
  | none => some []
  | some (.list elements) => (elements.mapM PyJson.hash).toOption
  | some _ => none

/-- `CONTEXT.MAIN.handler`, if what it stands in are objects. -/
def nestedFlags (handlerName : String) (testitem : PyJson) : Option PyJson := do
  let context ← member "CONTEXT" testitem
  let main ← member "MAIN" context
  member handlerName main

def shapedFlags (handlerName : String) (testitem : PyJson) : Option (List (String × PyJson)) := do
  let flags ← nestedFlags handlerName testitem
  flags.items.toOption

/-- What a well-formed item contributes; an item for another handler is any object. -/
def shapedTestitem (handlerName : String) (testitem : PyJson) : Option Contribution :=
  match testitem with
  | .dict fields =>
    if ((fields.lookup "HANDLER").getD .null).isText handlerName then do
      let testids ← shapedTestids fields
      let flags ← shapedFlags handlerName testitem
      return (testids, flags)
    else some ([], [])
  | _ => none

section

variable (loads : Bytes → Except PyError PyJson) (handlerName : String)

/-- What a well-formed entry contributes: a list of well-formed items. -/
def shapedEntry (expFlagRaw : String) : Option (List Contribution) :=
  match decode loads expFlagRaw with
  | .ok (.list testitems) => testitems.mapM (shapedTestitem handlerName)
  | _ => none

variable (expFlagsRaw : Option String)

def shapedContributions : List Contribution :=
  (entries expFlagsRaw).flatMap fun raw ↦ (shapedEntry loads handlerName raw).getD []

/-- The parser is constructed, with the flags and test ids of the well-formed entries, the first
occurrence of a flag winning. -/
def IsolatesBadEntries : Prop :=
  ∃ p, parseFlags loads handlerName expFlagsRaw = .ok p ∧
    (∀ key, p.expFlags.get? key =
      ((shapedContributions loads handlerName expFlagsRaw).flatMap Prod.snd).lookup key) ∧
    ∀ id, id ∈ p.testids ↔ id ∈ (shapedContributions loads handlerName expFlagsRaw).flatMap Prod.fst

end

/-! ### What stands in the header -/

/-- Adding the test ids raises nothing. -/
def ToleratedTestids : Option PyJson → Prop
  | none => True
  | some (.list elements) => ∀ element ∈ elements, ∃ id, element.hash = .ok id
  | some (.string _) => True
  | some (.dict _) => True
  | some _ => False

/-- The flags are an object, or they stand below a value that is none. -/
def ToleratedFlags (handlerName : String) (testitem : PyJson) : Prop :=
  ∀ flags, nestedFlags handlerName testitem = some flags → ∃ fields, flags = .dict fields

def ToleratedTestitem (handlerName : String) (testitem : PyJson) : Prop :=
  ∃ fields, testitem = .dict fields ∧
    (((fields.lookup "HANDLER").getD .null).isText handlerName →
      ToleratedTestids (fields.lookup "TESTID") ∧ ToleratedFlags handlerName testitem)

/-- The elements of a list, the characters of a text or the keys of an object. -/
def carriedTestids : Option PyJson → List PyScalar
  | some (.list elements) => elements.map fun element ↦ element.hash.toOption.getD .none
  | some (.string s) => s.toList.map fun c ↦ .text c.toString
  | some (.dict fields) => fields.map fun field ↦ .text field.1
  | _ => []

def carriedFlags (handlerName : String) (testitem : PyJson) : List (String × PyJson) :=
  match nestedFlags handlerName testitem with
  | some (.dict fields) => fields
  | _ => []

def carried (handlerName : String) (testitem : PyJson) : Contribution :=
  match testitem with
  | .dict fields =>
    if ((fields.lookup "HANDLER").getD .null).isText handlerName then
      (carriedTestids (fields.lookup "TESTID"), carriedFlags handlerName testitem)
    else ([], [])
  | _ => ([], [])

section

variable (loads : Bytes → Except PyError PyJson) (handlerName : String)

/-- The entry raises nothing: it is rejected with one of the exceptions that are caught, or it is a
list of tolerated items, or an object or a text that is empty. -/
def ToleratedEntry (expFlagRaw : String) : Prop :=
  match decode loads expFlagRaw with
  | .error e => e = .binasciiError ∨ e = .jsonDecodeError
  | .ok (.list testitems) => ∀ testitem ∈ testitems, ToleratedTestitem handlerName testitem
  | .ok (.string s) => s = ""
  | .ok (.dict fields) => fields = []
  | .ok _ => False

def carriedEntry (expFlagRaw : String) : List Contribution :=
  match decode loads expFlagRaw with
  | .ok (.list testitems) => testitems.map (carried handlerName)
  | _ => []

/-- The flags of the items for the handler, those of well-formed entries with a mark. -/
def markedFlags (expFlagsRaw : Option String) : List (Bool × String × PyJson) :=
  (entries expFlagsRaw).flatMap fun raw ↦
    ((carriedEntry loads handlerName raw).flatMap Prod.snd).map fun flag ↦
      ((shapedEntry loads handlerName raw).isSome, flag)

def allTestids (expFlagsRaw : Option String) : List PyScalar :=
  (entries expFlagsRaw).flatMap fun raw ↦ (carriedEntry loads handlerName raw).flatMap Prod.fst

/-- Every entry is tolerated and the test ids can be sorted; what a malformed entry carries stands
in a well-formed one too, a flag that it is the first to carry with the same value. -/
structure BadEntriesHarmless (expFlagsRaw : Option String) : Prop where
  tolerated : ∀ raw ∈ entries expFlagsRaw, ToleratedEntry loads handlerName raw
  sortable : PyScalar.Sortable (allTestids loads handlerName expFlagsRaw)
  testids : allTestids loads handlerName expFlagsRaw ⊆
    (shapedContributions loads handlerName expFlagsRaw).flatMap Prod.fst
  flags : ∀ before key value after,
    markedFlags loads handlerName expFlagsRaw = before ++ (false, key, value) :: after →
      key ∉ before.map (fun flag ↦ flag.2.1) →
        ((shapedContributions loads handlerName expFlagsRaw).flatMap Prod.snd).lookup key =
          some value

end

/-! ### What the parser reads -/

def add (p : UaasParser) (c : Contribution) : UaasParser where
  expFlags := c.2.foldl (fun d flag ↦ d.setDefault flag.1 flag.2) p.expFlags
  testids := p.testids ++ c.1

@[simp] theorem add_nil (p : UaasParser) : p.add ([], []) = p := by
  cases p
  rw [add, List.append_nil, List.foldl_nil]

theorem testids_foldl_add (cs : List Contribution) (p : UaasParser) :
    (cs.foldl add p).testids = p.testids ++ cs.flatMap Prod.fst := by
  induction cs generalizing p with
  | nil => rw [List.foldl_nil, List.flatMap_nil, List.append_nil]
  | cons c cs ih => rw [List.foldl_cons, ih, add, List.flatMap_cons, List.append_assoc]

theorem expFlags_foldl_add (cs : List Contribution) (p : UaasParser) :
    (cs.foldl add p).expFlags =
      (cs.flatMap Prod.snd).foldl (fun d flag ↦ d.setDefault flag.1 flag.2) p.expFlags := by
  induction cs generalizing p with
  | nil => rfl
  | cons c cs ih => rw [List.foldl_cons, ih, add, List.flatMap_cons, List.foldl_append]

def readTestids (testids : Option PyJson) : Except PyError (List PyScalar) := do
  let elements ← (testids.getD (.list [])).iterate
  elements.mapM PyJson.hash

def readFlags (handlerName : String) (testitem : PyJson) :
    Except PyError (List (String × PyJson)) := do
  let testitemFlags ← getTestitemFlags handlerName testitem
  testitemFlags.items

/-- What the parser takes from an item. -/
def readTestitem (handlerName : String) (testitem : PyJson) : Except PyError Contribution :=
  match testitem with
  | .dict fields =>
    if ((fields.lookup "HANDLER").getD .null).isText handlerName then do
      let testids ← readTestids (fields.lookup "TESTID")
      let flags ← readFlags handlerName testitem
      return (testids, flags)
    else .ok ([], [])
  | _ => .error .attributeError

theorem addTestitem_eq (handlerName : String) (p : UaasParser) (testitem : PyJson) :
    addTestitem handlerName p testitem = (readTestitem handlerName testitem).map p.add := by
  cases testitem with
  | dict fields =>
    have hget : ∀ key default, (PyJson.dict fields).get key default =
        .ok ((fields.lookup key).getD default) := fun _ _ ↦ rfl
    unfold addTestitem readTestitem
    simp only [hget, ok_bind]
    by_cases h : ((fields.lookup "HANDLER").getD .null).isText handlerName
    · rw [if_pos h, if_pos h]
      unfold readTestids readFlags
      cases ((fields.lookup "TESTID").getD (.list [])).iterate with
      | error e => rfl
      | ok elements =>
        simp only [ok_bind]
        cases elements.mapM PyJson.hash with
        | error e => rfl
        | ok triggered =>
          simp only [ok_bind]
          cases getTestitemFlags handlerName (.dict fields) with
          | error e => rfl
          | ok testitemFlags => cases testitemFlags <;> rfl
    · rw [if_neg h, if_neg h]
      exact congrArg Except.ok (add_nil p).symm
  | _ => rfl

/-! ### Items -/

theorem hash_eq_ok_iff {element : PyJson} {id : PyScalar} :
    element.hash = .ok id ↔
      (∃ id, element.hash = .ok id) ∧ id = element.hash.toOption.getD .none := by
  constructor
  · intro h
    rw [h]
    exact ⟨⟨id, rfl⟩, rfl⟩
  · rintro ⟨⟨id, h⟩, rfl⟩
    rw [h]
    rfl

theorem mapM_hash_string {α : Type} (f : α → String) (l : List α) :
    (l.map fun a ↦ PyJson.string (f a)).mapM PyJson.hash = .ok (l.map fun a ↦ .text (f a)) := by
  induction l with
  | nil => rfl
  | cons a l ih =>
    rw [List.map_cons, List.mapM_cons, ih]
    rfl

/-- What is read without a condition. -/
theorem ok_eq_ok_iff {α : Type} {a b : α} :
    (Except.ok a : Except PyError α) = .ok b ↔ True ∧ b = a :=
  ⟨fun h ↦ ⟨trivial, (Except.ok.inj h).symm⟩, fun h ↦ congrArg Except.ok h.2.symm⟩

theorem error_eq_ok_iff {α : Type} {e : PyError} {a b : α} :
    (Except.error e : Except PyError α) = .ok b ↔ False ∧ b = a :=
  ⟨fun h ↦ (by cases h), fun h ↦ h.1.elim⟩

theorem readTestids_eq_ok_iff {testids : Option PyJson} {ids : List PyScalar} :
    readTestids testids = .ok ids ↔ ToleratedTestids testids ∧ ids = carriedTestids testids := by
  cases testids with
  | none => exact ok_eq_ok_iff
  | some value =>
    cases value with
    | list elements => exact mapM_eq_ok_iff_of fun element id ↦ hash_eq_ok_iff
    | string s =>
      apply Iff.trans (Eq.congr_left (mapM_hash_string Char.toString s.toList))
      exact ok_eq_ok_iff
    | dict fields =>
      apply Iff.trans (Eq.congr_left (mapM_hash_string Prod.fst fields))
      exact ok_eq_ok_iff
    | _ => exact error_eq_ok_iff

theorem get_eq (key : String) (value : PyJson) :
    value.get key (.dict []) = (member key value).elim (.error .attributeError) .ok := by
  cases value <;> rfl

/-- The exception of a value that is no object is caught. -/
theorem getTestitemFlags_eq (handlerName : String) (testitem : PyJson) :
    getTestitemFlags handlerName testitem =
      .ok ((nestedFlags handlerName testitem).getD (.dict [])) := by
  unfold getTestitemFlags nestedFlags
  simp only [get_eq]
  cases member "CONTEXT" testitem with
  | none => rfl
  | some context =>
    simp only [Option.elim_some, ok_bind, Option.bind_eq_bind, Option.bind_some]
    cases member "MAIN" context with
    | none => rfl
    | some main =>
      simp only [Option.elim_some, ok_bind, Option.bind_some]
      cases member handlerName main <;> rfl

theorem readFlags_eq_ok_iff {handlerName : String} {testitem : PyJson}
    {flags : List (String × PyJson)} :
    readFlags handlerName testitem = .ok flags ↔
      ToleratedFlags handlerName testitem ∧ flags = carriedFlags handlerName testitem := by
  unfold readFlags ToleratedFlags carriedFlags
  rw [getTestitemFlags_eq, ok_bind]
  cases nestedFlags handlerName testitem with
  | none =>
    apply ok_eq_ok_iff.trans
    exact and_congr_left' ⟨fun _ flags h ↦ (by cases h), fun _ ↦ trivial⟩
  | some value =>
    cases value with
    | dict fields =>
      apply ok_eq_ok_iff.trans
      exact and_congr_left' ⟨fun _ flags h ↦ ⟨fields, (Option.some.inj h).symm⟩, fun _ ↦ trivial⟩
    | _ =>
      constructor
      · intro h
        cases h
      · rintro ⟨h, -⟩
        obtain ⟨fields, hfields⟩ := h _ rfl
        cases hfields

theorem readTestitem_eq_ok_iff {handlerName : String} {testitem : PyJson} {c : Contribution} :
    readTestitem handlerName testitem = .ok c ↔
      ToleratedTestitem handlerName testitem ∧ c = carried handlerName testitem := by
  unfold readTestitem ToleratedTestitem carried
  cases testitem with
  | dict fields =>
    simp only [PyJson.dict.injEq, exists_eq_left']
    by_cases h : ((fields.lookup "HANDLER").getD .null).isText handlerName
    · rw [if_pos h, if_pos h, forall_prop_of_true h, bind_eq_ok_iff]
      simp only [readTestids_eq_ok_iff, bind_eq_ok_iff, readFlags_eq_ok_iff]
      constructor
      · rintro ⟨ids, ⟨hids, rfl⟩, flags, ⟨hflags, rfl⟩, hc⟩
        exact ⟨⟨hids, hflags⟩, (Except.ok.inj hc).symm⟩
      · rintro ⟨⟨hids, hflags⟩, rfl⟩
        exact ⟨_, ⟨hids, rfl⟩, _, ⟨hflags, rfl⟩, rfl⟩
    · rw [if_neg h, if_neg h]
      apply ok_eq_ok_iff.trans
      exact and_congr_left' ⟨fun _ hhandler ↦ absurd hhandler h, fun _ ↦ trivial⟩
  | _ =>
    constructor
    · intro h
      cases h
    · rintro ⟨⟨fields, hfields, -⟩, -⟩
      cases hfields

/-! ### Entries -/

section

variable (loads : Bytes → Except PyError PyJson) (handlerName : String)

/-- What the parser takes from an entry. -/
def readEntry (expFlagRaw : String) : Except PyError (List Contribution) :=
  match decode loads expFlagRaw with
  | .error .binasciiError => .ok []
  | .error .jsonDecodeError => .ok []
  | .error e => .error e
  | .ok expFlag => do
    let testitems ← expFlag.iterate
    testitems.mapM (readTestitem handlerName)

theorem addEntry_eq (p : UaasParser) (expFlagRaw : String) :
    addEntry loads handlerName p expFlagRaw =
      (readEntry loads handlerName expFlagRaw).map fun cs ↦ cs.foldl add p := by
  unfold addEntry readEntry
  cases decode loads expFlagRaw with
  | error e => cases e <;> rfl
  | ok expFlag =>
    cases hiter : expFlag.iterate with
    | error e => simp only [hiter]; rfl
    | ok testitems =>
      simp only [hiter, ok_bind]
      exact foldlM_eq_map_mapM (addTestitem_eq handlerName) testitems p

variable {loads handlerName}

/-- No item stands in a text that is not empty, or among the keys of an object. -/
theorem mapM_readTestitem_string {α : Type} (f : α → String) (l : List α)
    {cs : List Contribution} :
    (l.map fun a ↦ PyJson.string (f a)).mapM (readTestitem handlerName) = .ok cs ↔
      l = [] ∧ cs = [] := by
  cases l with
  | nil => exact ⟨fun h ↦ ⟨rfl, (Except.ok.inj h).symm⟩, fun h ↦ congrArg Except.ok h.2.symm⟩
  | cons a l =>
    constructor
    · intro h
      cases h
    · rintro ⟨h, -⟩
      cases h

theorem readEntry_eq_ok_iff {expFlagRaw : String} {cs : List Contribution} :
    readEntry loads handlerName expFlagRaw = .ok cs ↔
      ToleratedEntry loads handlerName expFlagRaw ∧
        cs = carriedEntry loads handlerName expFlagRaw := by
  unfold readEntry ToleratedEntry carriedEntry
  cases decode loads expFlagRaw with
  | error e =>
    cases e with
    | binasciiError =>
      exact ok_eq_ok_iff.trans (and_congr_left' ⟨fun _ ↦ Or.inl rfl, fun _ ↦ trivial⟩)
    | jsonDecodeError =>
      exact ok_eq_ok_iff.trans (and_congr_left' ⟨fun _ ↦ Or.inr rfl, fun _ ↦ trivial⟩)
    | _ => exact error_eq_ok_iff.trans (and_congr_left' ⟨False.elim, fun h ↦ by simp at h⟩)
  | ok expFlag =>
    cases expFlag with
    | list testitems => exact mapM_eq_ok_iff_of fun testitem c ↦ readTestitem_eq_ok_iff
    | string s =>
      apply (mapM_readTestitem_string Char.toString s.toList).trans
      exact and_congr_left' String.toList_eq_nil_iff
    | dict fields => exact mapM_readTestitem_string Prod.fst fields
    | _ => exact error_eq_ok_iff

/-! ### Well-formed entries are read -/

theorem shapedTestids_eq_some {fields : List (String × PyJson)} {ids : List PyScalar}
    (h : shapedTestids fields = some ids) :
    ToleratedTestids (fields.lookup "TESTID") ∧
      ids = carriedTestids (fields.lookup "TESTID") := by
  rw [← readTestids_eq_ok_iff]
  unfold shapedTestids at h
  cases hlookup : fields.lookup "TESTID" with
  | none =>
    rw [hlookup] at h
    exact congrArg Except.ok (Option.some.inj h)
  | some value =>
    rw [hlookup] at h
    cases value with
    | list elements =>
      change elements.mapM PyJson.hash = .ok ids
      change (elements.mapM PyJson.hash).toOption = some ids at h
      cases hread : elements.mapM PyJson.hash with
      | error e =>
        rw [hread] at h
        cases h
      | ok ids' =>
        rw [hread] at h
        exact congrArg Except.ok (Option.some.inj h)
    | _ => cases h

theorem shapedFlags_eq_some {testitem : PyJson} {flags : List (String × PyJson)}
    (h : shapedFlags handlerName testitem = some flags) :
    ToleratedFlags handlerName testitem ∧ flags = carriedFlags handlerName testitem := by
  unfold shapedFlags at h
  obtain ⟨value, hvalue, hitems⟩ := Option.bind_eq_some_iff.mp h
  unfold ToleratedFlags carriedFlags
  rw [hvalue]
  cases value with
  | dict fields =>
    exact ⟨fun flags hflags ↦ ⟨fields, (Option.some.inj hflags).symm⟩,
      (Option.some.inj hitems).symm⟩
  | _ => cases hitems

theorem shapedTestitem_eq_some (testitem : PyJson) (c : Contribution)
    (h : shapedTestitem handlerName testitem = some c) :
    ToleratedTestitem handlerName testitem ∧ c = carried handlerName testitem := by
  cases testitem with
  | dict fields =>
    unfold ToleratedTestitem carried
    simp only [PyJson.dict.injEq, exists_eq_left']
    unfold shapedTestitem at h
    by_cases hhandler : ((fields.lookup "HANDLER").getD .null).isText handlerName
    · rw [if_pos hhandler, forall_prop_of_true hhandler]
      simp only [if_pos hhandler] at h
      obtain ⟨ids, hids, h⟩ := Option.bind_eq_some_iff.mp h
      obtain ⟨flags, hflags, h⟩ := Option.bind_eq_some_iff.mp h
      obtain ⟨htestids, rfl⟩ := shapedTestids_eq_some hids
      obtain ⟨htestitem, rfl⟩ := shapedFlags_eq_some hflags
      exact ⟨⟨htestids, htestitem⟩, (Option.some.inj h).symm⟩
    · rw [if_neg hhandler]
      simp only [if_neg hhandler] at h
      exact ⟨fun htrue ↦ absurd htrue hhandler, (Option.some.inj h).symm⟩
  | _ => cases h

theorem shapedEntry_eq_some {expFlagRaw : String} {cs : List Contribution}
    (h : shapedEntry loads handlerName expFlagRaw = some cs) :
    cs = carriedEntry loads handlerName expFlagRaw := by
  unfold shapedEntry at h
  unfold carriedEntry
  split at h
  · exact (of_mapM_eq_some shapedTestitem_eq_some h).2
  · cases h

theorem shapedContributions_eq (expFlagsRaw : Option String) :
    shapedContributions loads handlerName expFlagsRaw =
      ((entries expFlagsRaw).filter fun raw ↦
        (shapedEntry loads handlerName raw).isSome).flatMap (carriedEntry loads handlerName) := by
  unfold shapedContributions
  induction entries expFlagsRaw with
  | nil => rfl
  | cons raw rest ih =>
    rw [List.flatMap_cons, ih, List.filter_cons]
    cases h : shapedEntry loads handlerName raw with
    | none => rfl
    | some cs =>
      rw [shapedEntry_eq_some h, Option.getD_some, Option.isSome_some, if_pos rfl,
        List.flatMap_cons]

/-! ### The header -/

theorem foldlM_addEntry_eq_ok_iff {raws : List String} {p : UaasParser} :
    raws.foldlM (addEntry loads handlerName) initial = .ok p ↔
      (∀ raw ∈ raws, ToleratedEntry loads handlerName raw) ∧
        p = (raws.flatMap (carriedEntry loads handlerName)).foldl add initial := by
  rw [foldlM_eq_map_mapM (addEntry_eq loads handlerName), map_eq_ok_iff]
  simp only [mapM_eq_ok_iff_of fun raw cs ↦ readEntry_eq_ok_iff]
  rw [List.flatMap_def, List.foldl_flatten]
  constructor
  · rintro ⟨cs, ⟨htolerated, rfl⟩, rfl⟩
    exact ⟨htolerated, rfl⟩
  · rintro ⟨htolerated, rfl⟩
    exact ⟨_, ⟨htolerated, rfl⟩, rfl⟩

theorem testids_foldl_carriedEntry (expFlagsRaw : Option String) :
    (((entries expFlagsRaw).flatMap (carriedEntry loads handlerName)).foldl add initial).testids =
      allTestids loads handlerName expFlagsRaw := by
  rw [testids_foldl_add, allTestids, List.flatMap_assoc]
  exact List.nil_append _

/-- The parser is constructed exactly of a header whose entries are tolerated and whose test ids
can be sorted, with what they carry. -/
theorem parseFlags_eq_ok_iff {expFlagsRaw : Option String} {p : UaasParser} :
    parseFlags loads handlerName expFlagsRaw = .ok p ↔
      (∀ raw ∈ entries expFlagsRaw, ToleratedEntry loads handlerName raw) ∧
        PyScalar.Sortable (allTestids loads handlerName expFlagsRaw) ∧
          p = ((entries expFlagsRaw).flatMap (carriedEntry loads handlerName)).foldl add
            initial := by
  unfold parseFlags
  simp only [bind_eq_ok_iff, foldlM_addEntry_eq_ok_iff]
  constructor
  · rintro ⟨_, ⟨htolerated, rfl⟩, h⟩
    rw [testids_foldl_carriedEntry] at h
    by_cases hsortable : PyScalar.Sortable (allTestids loads handlerName expFlagsRaw)
    · rw [if_pos hsortable] at h
      exact ⟨htolerated, hsortable, (Except.ok.inj h).symm⟩
    · rw [if_neg hsortable] at h
      cases h
  · rintro ⟨htolerated, hsortable, rfl⟩
    refine ⟨_, ⟨htolerated, rfl⟩, ?_⟩
    rw [testids_foldl_carriedEntry, if_pos hsortable]
    rfl

theorem snd_markedFlags (expFlagsRaw : Option String) :
    (markedFlags loads handlerName expFlagsRaw).map Prod.snd =
      ((entries expFlagsRaw).flatMap (carriedEntry loads handlerName)).flatMap Prod.snd := by
  unfold markedFlags
  rw [List.map_flatMap, List.flatMap_assoc]
  congr 1
  funext raw
  rw [List.map_map]
  exact List.map_id _

theorem filter_markedFlags (expFlagsRaw : Option String) :
    ((markedFlags loads handlerName expFlagsRaw).filter Prod.fst).map Prod.snd =
      (shapedContributions loads handlerName expFlagsRaw).flatMap Prod.snd := by
  unfold markedFlags
  rw [shapedContributions_eq]
  induction entries expFlagsRaw with
  | nil => rfl
  | cons raw rest ih =>
    rw [List.flatMap_cons, List.filter_append, List.map_append, ih, List.filter_cons,
      List.filter_map, List.map_map]
    cases shapedEntry loads handlerName raw with
    | none => simp [Function.comp_def]
    | some cs => simp [Function.comp_def]

/-- A header is read as its well-formed entries alone exactly if what the others carry is
harmless. -/
theorem isolatesBadEntries_iff (loads : Bytes → Except PyError PyJson) (handlerName : String)
    (expFlagsRaw : Option String) :
    IsolatesBadEntries loads handlerName expFlagsRaw ↔
      BadEntriesHarmless loads handlerName expFlagsRaw := by
  have hflags : ∀ key, (((entries expFlagsRaw).flatMap
      (carriedEntry loads handlerName)).foldl add initial).expFlags.get? key =
        ((markedFlags loads handlerName expFlagsRaw).map Prod.snd).lookup key := by
    intro key
    rw [expFlags_foldl_add, Dict.get?_foldl_setDefault, snd_markedFlags]
    exact Option.none_or
  have hshaped : (shapedContributions loads handlerName expFlagsRaw).flatMap Prod.fst ⊆
      allTestids loads handlerName expFlagsRaw := by
    intro id hid
    rw [shapedContributions_eq, List.flatMap_assoc, List.mem_flatMap] at hid
    obtain ⟨raw, hraw, hid⟩ := hid
    exact List.mem_flatMap.mpr ⟨raw, (List.mem_filter.mp hraw).1, hid⟩
  constructor
  · rintro ⟨p, hp, hget, hids⟩
    obtain ⟨htolerated, hsortable, rfl⟩ := parseFlags_eq_ok_iff.mp hp
    rw [testids_foldl_carriedEntry] at hids
    refine ⟨htolerated, hsortable, fun id hid ↦ (hids id).mp hid, ?_⟩
    rw [← filter_markedFlags]
    apply Dict.lookup_eq_lookup_filter_iff.mp
    intro key
    rw [← hflags, hget, filter_markedFlags]
  · rintro ⟨htolerated, hsortable, hids, hfirst⟩
    refine ⟨_, parseFlags_eq_ok_iff.mpr ⟨htolerated, hsortable, rfl⟩, fun key ↦ ?_, fun id ↦ ?_⟩
    · rw [← filter_markedFlags] at hfirst ⊢
      rw [hflags]
      exact Dict.lookup_eq_lookup_filter_iff.mpr hfirst key
    · rw [testids_foldl_carriedEntry]
      exact ⟨fun hid ↦ hids hid, fun hid ↦ hshaped hid⟩

/-- `json.loads` on a byte that begins no text in UTF-8, and on the digit one. -/
def sampleLoads : Bytes → Except PyError PyJson
  | [0x80] => .error .unicodeDecodeError
  | [0x31] => .ok (.number 1)
  | _ => .error .jsonDecodeError

/-- Neither bytes that are not UTF-8, nor JSON that is no list, nor a text outside ASCII is
skipped. -/
theorem bad_entries_raise :
    ¬ IsolatesBadEntries sampleLoads "api/pay" (some "gA==") ∧
      ¬ IsolatesBadEntries sampleLoads "api/pay" (some "MQ==") ∧
        ¬ IsolatesBadEntries sampleLoads "api/pay" (some "é") := by
  have hraises : ∀ {header : String},
      (parseFlags sampleLoads "api/pay" (some header)).toOption.isNone →
        ¬ IsolatesBadEntries sampleLoads "api/pay" (some header) := by
    rintro header h ⟨p, hp, -⟩
    rw [hp] at h
    cases h
  refine ⟨hraises ?_, hraises ?_, hraises ?_⟩
  · decide +kernel
  · decide +kernel
  · decide +kernel

end

end UaasParser

end YandexPay.Uaas
