import YandexPay.Library.Dict

/-!
# Values collected by key

`index` keeps values under their keys. A loop that updates for each of its elements the entry of
the element's key fails at a key that is absent; if no key is, every entry is updated by the
elements of its key, in their order (`modifyAll_eq_ok`).
-/

set_option autoImplicit false
set_option relaxedAutoImplicit false

namespace YandexPay.Dict

variable {κ ν β : Type}

def keys (d : Dict κ ν) : List κ := d.items.map Prod.fst

def values (d : Dict κ ν) : List ν := d.items.map Prod.snd

/-- The dictionary with every value replaced. -/
def mapValues (f : κ → ν → β) (d : Dict κ ν) : Dict κ β where
  items := d.items.map fun p ↦ (p.1, f p.1 p.2)
  nodup := by
    rw [List.map_map]
    exact d.nodup

theorem eq_of_items_eq {d d' : Dict κ ν} (h : d.items = d'.items) : d = d' := by
  cases d
  cases d'
  congr

@[simp] theorem keys_mapValues (f : κ → ν → β) (d : Dict κ ν) : (d.mapValues f).keys = d.keys := by
  rw [keys, mapValues, List.map_map]
  rfl

theorem mapValues_mapValues {γ : Type} (g : κ → β → γ) (f : κ → ν → β) (d : Dict κ ν) :
    (d.mapValues f).mapValues g = d.mapValues fun k v ↦ g k (f k v) := by
  simp only [mapValues, List.map_map, Function.comp_def]

@[simp] theorem mapValues_self (d : Dict κ ν) : d.mapValues (fun _ v ↦ v) = d := by
  simp only [mapValues, List.map_id']

variable [DecidableEq κ]

theorem get?_mapValues (f : κ → ν → β) (d : Dict κ ν) (k : κ) :
    (d.mapValues f).get? k = (d.get? k).map (f k) := by
  cases hget : d.get? k with
  | none =>
    rw [Option.map_none, get?_eq_none_iff]
    rw [get?_eq_none_iff] at hget
    show k ∉ (d.mapValues f).keys
    rwa [keys_mapValues]
  | some v =>
    rw [get?_eq_some_iff] at hget
    exact get?_eq_some_iff.mpr (List.mem_map_of_mem hget)

/-! ### Dictionaries of values by their own key -/

/-- `{key(v): v for v in l}` -/
def index (key : ν → κ) (l : List ν) : Dict κ ν := ofList (l.map fun v ↦ (key v, v))

theorem items_index {key : ν → κ} {l : List ν} (h : (l.map key).Nodup) :
    (index key l).items = l.map fun v ↦ (key v, v) := by
  refine items_ofList ?_
  rw [List.map_map]
  exact h

theorem keys_index {key : ν → κ} {l : List ν} (h : (l.map key).Nodup) :
    (index key l).keys = l.map key := by
  rw [keys, items_index h, List.map_map]
  rfl

theorem values_index {key : ν → κ} {l : List ν} (h : (l.map key).Nodup) :
    (index key l).values = l := by
  rw [values, items_index h, List.map_map]
  exact List.map_id' l

theorem foldl_set_index (key : ν → κ) (l l' : List ν) :
    l'.foldl (fun d v ↦ d.set (key v) v) (index key l) = index key (l ++ l') := by
  have hfold (d : Dict κ ν) : l'.foldl (fun d v ↦ d.set (key v) v) d =
      (l'.map fun v ↦ (key v, v)).foldl (fun d p ↦ d.set p.1 p.2) d := by
    rw [List.foldl_map]
  rw [hfold, index, index, ofList, ofList, List.map_append, List.foldl_append]

theorem values_mapValues_index {key : ν → κ} {l : List ν} (h : (l.map key).Nodup)
    (f : κ → ν → β) : ((index key l).mapValues f).values = l.map fun v ↦ f (key v) v := by
  show ((index key l).items.map fun p ↦ (p.1, f p.1 p.2)).map Prod.snd = _
  rw [items_index h, List.map_map, List.map_map]
  rfl

theorem get?_index {key : ν → κ} {l : List ν} (h : (l.map key).Nodup) {v : ν} (hv : v ∈ l) :
    (index key l).get? (key v) = some v := by
  rw [get?_eq_some_iff, items_index h]
  exact List.mem_map_of_mem hv

/-! ### Sets of keys -/

/-- The keys of the elements of `l` that the dictionary does not have. -/
def missingKeys (d : Dict κ ν) (key : β → κ) (l : List β) : List κ :=
  l.foldl (fun ks b ↦ if key b ∈ d.keys then ks else ks.insert (key b)) []

theorem mem_missingKeys {d : Dict κ ν} {key : β → κ} {l : List β} {k : κ} :
    k ∈ d.missingKeys key l ↔ k ∉ d.keys ∧ ∃ b ∈ l, key b = k := by
  induction l using List.reverseRecOn with
  | nil => simp [missingKeys]
  | append_singleton l b ih =>
    rw [missingKeys] at ih ⊢
    rw [List.foldl_append, List.foldl_cons, List.foldl_nil]
    by_cases hb : key b ∈ d.keys
    · rw [if_pos hb, ih]
      grind
    · rw [if_neg hb, List.mem_insert_iff, ih]
      grind

theorem mem_foldl_insert {f : β → κ} {l : List β} {ks : List κ} {k : κ} :
    k ∈ l.foldl (fun ks b ↦ ks.insert (f b)) ks ↔ k ∈ ks ∨ ∃ b ∈ l, f b = k := by
  induction l generalizing ks with
  | nil => simp
  | cons b l ih =>
    rw [List.foldl_cons, ih, List.mem_insert_iff]
    grind

theorem nodup_foldl_insert (f : β → κ) (l : List β) {ks : List κ} (h : ks.Nodup) :
    (l.foldl (fun ks b ↦ ks.insert (f b)) ks).Nodup := by
  induction l generalizing ks with
  | nil => exact h
  | cons b l ih => exact ih h.insert

/-! ### Entries that are present -/

/-- `d[k]`; the error is the key that is missing. -/
def item (d : Dict κ ν) (k : κ) : Except κ ν :=
  match d.get? k with
  | none => .error k
  | some v => .ok v

/-- `d[k]` is updated by `f`. -/
def modify (d : Dict κ ν) (k : κ) (f : ν → ν) : Except κ (Dict κ ν) := do
  let v ← d.item k
  return d.set k (f v)

/-- A loop over `l` that updates the entry of each element's key. -/
def modifyAll (op : ν → β → ν) (key : β → κ) (l : List β) (d : Dict κ ν) :
    Except κ (Dict κ ν) :=
  l.foldlM (fun d b ↦ d.modify (key b) fun v ↦ op v b) d

theorem item_eq_ok {d : Dict κ ν} {k : κ} {v : ν} (h : d.get? k = some v) : d.item k = .ok v := by
  rw [item, h]

theorem modify_eq_ok {d : Dict κ ν} {k : κ} (h : k ∈ d.keys) (f : ν → ν) :
    d.modify k f = .ok (d.mapValues fun l v ↦ if l = k then f v else v) := by
  obtain ⟨⟨k, v⟩, hp, rfl⟩ := List.mem_map.mp h
  have hget : d.get? k = some v := get?_eq_some_iff.mpr hp
  have hset : d.set k (f v) = d.mapValues fun l w ↦ if l = k then f w else w := by
    refine eq_of_items_eq ?_
    rw [items_set, if_pos (List.mem_map_of_mem hp : k ∈ d.items.map Prod.fst)]
    refine List.map_congr_left fun p hp' ↦ ?_
    by_cases hk : p.1 = k
    · obtain rfl : p = (k, v) := List.inj_on_of_nodup_map d.nodup hp' hp hk
      simp
    · simp [hk]
  simp only [modify, item, hget, ← hset]
  rfl

theorem modifyAll_eq_ok {op : ν → β → ν} {key : β → κ} {l : List β} {d : Dict κ ν}
    (h : ∀ b ∈ l, key b ∈ d.keys) :
    modifyAll op key l d =
      .ok (d.mapValues fun k v ↦ (l.filter fun b ↦ key b = k).foldl op v) := by
  induction l generalizing d with
  | nil => exact congrArg Except.ok (mapValues_self d).symm
  | cons b l ih =>
    have hstep := modify_eq_ok (h b List.mem_cons_self) fun v ↦ op v b
    have hrest := ih (d := d.mapValues fun k v ↦ if k = key b then op v b else v) fun c hc ↦ by
      rw [keys_mapValues]
      exact h c (List.mem_cons_of_mem b hc)
    rw [modifyAll, List.foldlM_cons, hstep]
    refine hrest.trans (congrArg Except.ok ?_)
    rw [mapValues_mapValues]
    congr 1
    funext k v
    by_cases hk : key b = k
    · simp [hk]
    · simp [hk, Ne.symm hk]

end YandexPay.Dict
