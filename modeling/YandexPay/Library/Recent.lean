import Mathlib.Data.List.DropRight
import Mathlib.Data.List.Nodup
import Mathlib.Data.List.Pairwise
import Mathlib.Data.List.Perm.Subperm

/-!
# The most recent entries of a history

Entries have keys, and a later entry of a history stands for the earlier ones of its key. `latest`
is what counts of a history and `recent` its last `n` entries: what a cache of `n` entries holds
that puts new entries at its end and gives up the ones in front.

`recent_append` is why such a cache needs no history: what it holds after a batch depends on what it
held before and on the batch. `recent_revise` says the same of a change to the entry of a key.
-/

set_option autoImplicit false
set_option relaxedAutoImplicit false

namespace YandexPay.Recent

variable {α β : Type*} [DecidableEq β] (key : α → β)

def keys (entries : List α) : List β := entries.map key

/-- The last entry of every key, in their order. -/
def latest (history : List α) : List α := history.pwFilter fun a b ↦ key a ≠ key b

def recent (n : ℕ) (history : List α) : List α := (latest key history).rtake n

/-- The entry in place of those of its key. -/
def revise (entry : α) (history : List α) : List α :=
  history.map fun a ↦ if key a = key entry then entry else a

/-- The entries that a batch does not replace. -/
def remaining (entries batch : List α) : List α := entries.filter fun a ↦ key a ∉ keys key batch

variable {key}

omit [DecidableEq β] in
theorem nodup_keys_iff {entries : List α} :
    (keys key entries).Nodup ↔ entries.Pairwise fun a b ↦ key a ≠ key b :=
  List.pairwise_map

theorem nodup_keys_latest (history : List α) : (keys key (latest key history)).Nodup :=
  nodup_keys_iff.mpr (List.pairwise_pwFilter history)

theorem latest_sublist (history : List α) : (latest key history).Sublist history :=
  List.pwFilter_sublist history

theorem recent_sublist (n : ℕ) (history : List α) : (recent key n history).Sublist history :=
  (List.drop_sublist _ _).trans (latest_sublist history)

variable (key) in
theorem nodup_keys_recent (n : ℕ) (history : List α) : (keys key (recent key n history)).Nodup :=
  (nodup_keys_latest history).sublist ((List.drop_sublist _ _).map key)

/-- An entry has a later one of its key in `latest` exactly if it has one in the history. -/
theorem forall_latest_ne_iff (a : α) (history : List α) :
    (∀ b ∈ latest key history, key a ≠ key b) ↔ ∀ b ∈ history, key a ≠ key b := by
  refine List.forall_mem_pwFilter (R := fun a b ↦ key a ≠ key b) (fun {x y z} hxz ↦ ?_) a history
  by_cases hxy : key x = key y
  · exact Or.inr fun hyz ↦ hxz (hxy.trans hyz)
  · exact Or.inl hxy

theorem latest_cons (a : α) (history : List α) :
    latest key (a :: history) =
      if key a ∈ keys key history then latest key history else a :: latest key history := by
  have hiff : (∀ b ∈ latest key history, key a ≠ key b) ↔ key a ∉ keys key history := by
    rw [forall_latest_ne_iff, keys, List.mem_map, not_exists]
    exact forall_congr' fun b ↦ ⟨fun h hb ↦ h hb.1 hb.2.symm, fun h hb heq ↦ h ⟨hb, heq.symm⟩⟩
  by_cases hmem : key a ∈ keys key history
  · rw [if_pos hmem]
    exact List.pwFilter_cons_of_neg fun h ↦ hiff.mp h hmem
  · rw [if_neg hmem]
    exact List.pwFilter_cons_of_pos (hiff.mpr hmem)

theorem latest_eq_self {batch : List α} (h : (keys key batch).Nodup) : latest key batch = batch :=
  List.pwFilter_eq_self.mpr (nodup_keys_iff.mp h)

theorem recent_eq_self {n : ℕ} {batch : List α} (h : (keys key batch).Nodup)
    (hlength : batch.length ≤ n) : recent key n batch = batch := by
  rw [recent, latest_eq_self h, List.rtake, Nat.sub_eq_zero_of_le hlength, List.drop_zero]

/-- A batch replaces the entries of its keys and comes behind the others. -/
theorem latest_append (history : List α) {batch : List α} (h : (keys key batch).Nodup) :
    latest key (history ++ batch) = remaining key (latest key history) batch ++ batch := by
  induction history with
  | nil => exact latest_eq_self h
  | cons a history ih =>
    have hkeys : key a ∈ keys key (history ++ batch) ↔
        key a ∈ keys key history ∨ key a ∈ keys key batch := by
      rw [keys, List.map_append, List.mem_append, keys, keys]
    rw [List.cons_append, latest_cons, latest_cons, ih]
    by_cases hbatch : key a ∈ keys key batch
    · rw [if_pos (hkeys.mpr (Or.inr hbatch))]
      by_cases hmem : key a ∈ keys key history
      · rw [if_pos hmem]
      · rw [if_neg hmem, remaining, remaining, List.filter_cons_of_neg (by simpa using hbatch)]
    · by_cases hmem : key a ∈ keys key history
      · rw [if_pos hmem, if_pos (hkeys.mpr (Or.inl hmem))]
      · rw [if_neg hmem, if_neg (fun h ↦ (hkeys.mp h).elim hmem hbatch), remaining, remaining,
          List.filter_cons_of_pos (by simpa using hbatch), List.cons_append]

/-- Of entries with distinct keys a batch replaces at most as many as it has. -/
theorem length_le_length_remaining {entries : List α} (h : (keys key entries).Nodup)
    (batch : List α) : entries.length ≤ (remaining key entries batch).length + batch.length := by
  have hreplaced : (entries.filter fun a ↦ key a ∈ keys key batch).length ≤ batch.length := by
    have hnodup : (keys key (entries.filter fun a ↦ key a ∈ keys key batch)).Nodup :=
      h.sublist (List.filter_sublist.map key)
    have hsubset : keys key (entries.filter fun a ↦ key a ∈ keys key batch) ⊆ keys key batch := by
      intro k hk
      obtain ⟨a, ha, rfl⟩ := List.mem_map.mp hk
      exact of_decide_eq_true (List.mem_filter.mp ha).2
    have hle := (List.Nodup.subperm hnodup hsubset).length_le
    rwa [keys, List.length_map, keys, List.length_map] at hle
  have hsplit := List.length_eq_length_filter_add (l := entries) fun a ↦ key a ∈ keys key batch
  have hrest : (entries.filter fun a ↦ !decide (key a ∈ keys key batch)) =
      remaining key entries batch :=
    List.filter_congr fun a _ ↦ (decide_not).symm
  rw [hrest] at hsplit
  omega

/-- Of the end of a list enough is left behind a filter that drops few of its entries. -/
theorem rtake_filter_rtake (l : List α) (p : α → Bool) {n m : ℕ}
    (h : l.length ≤ n ∨ m ≤ ((l.rtake n).filter p).length) :
    ((l.rtake n).filter p).rtake m = (l.filter p).rtake m := by
  by_cases hle : l.length ≤ n
  · have hall : l.rtake n = l := by rw [List.rtake, Nat.sub_eq_zero_of_le hle, List.drop_zero]
    rw [hall]
  · have hm := h.resolve_left hle
    have hsplit : l.filter p =
        (l.take (l.length - n)).filter p ++ (l.rtake n).filter p := by
      rw [← List.filter_append, List.rtake, List.take_append_drop]
    rw [hsplit]
    generalize (l.rtake n).filter p = kept at hm
    rw [List.rtake, List.rtake, List.length_append, Nat.add_sub_assoc hm,
      List.drop_length_add_append]

/-- What a cache of `n` entries holds after a batch. -/
theorem recent_append (history : List α) {n : ℕ} {batch : List α} (h : (keys key batch).Nodup)
    (hlength : batch.length ≤ n) :
    recent key n (history ++ batch) =
      (remaining key (recent key n history) batch).rtake (n - batch.length) ++ batch := by
  have hrest : (remaining key (recent key n history) batch).rtake (n - batch.length) =
      (remaining key (latest key history) batch).rtake (n - batch.length) := by
    refine rtake_filter_rtake (latest key history) _ ?_
    by_cases hle : (latest key history).length ≤ n
    · exact Or.inl hle
    · have hfull : (recent key n history).length = n := by
        rw [recent, List.rtake, List.length_drop]
        omega
      have hkept := length_le_length_remaining (nodup_keys_recent key n history) batch
      refine Or.inr ?_
      change n - batch.length ≤ (remaining key (recent key n history) batch).length
      omega
  rw [hrest, recent, latest_append history h, List.rtake, List.length_append, List.rtake]
  have hindex : (remaining key (latest key history) batch).length + batch.length - n =
      (remaining key (latest key history) batch).length - (n - batch.length) := by omega
  rw [hindex, List.drop_append_of_le_length (Nat.sub_le _ _)]

variable (key) in
theorem key_ite (entry a : α) : key (if key a = key entry then entry else a) = key a := by
  by_cases h : key a = key entry
  · rw [if_pos h, h]
  · rw [if_neg h]

theorem keys_revise (entry : α) (history : List α) :
    keys key (revise key entry history) = keys key history := by
  rw [keys, revise, List.map_map]
  exact List.map_congr_left fun a _ ↦ key_ite key entry a

theorem latest_revise (entry : α) (history : List α) :
    latest key (revise key entry history) = revise key entry (latest key history) := by
  induction history with
  | nil => rfl
  | cons a history ih =>
    have hmem : key (if key a = key entry then entry else a) ∈
        keys key (revise key entry history) ↔ key a ∈ keys key history := by
      rw [key_ite key entry a, keys_revise]
    rw [revise, List.map_cons, latest_cons, latest_cons, ← revise, ih]
    by_cases ha : key a ∈ keys key history
    · rw [if_pos ha, if_pos (hmem.mpr ha)]
    · rw [if_neg ha, if_neg (mt hmem.mp ha), revise, revise, List.map_cons]

/-- A cache takes over the change of an entry that it holds. -/
theorem recent_revise (n : ℕ) (entry : α) (history : List α) :
    recent key n (revise key entry history) = revise key entry (recent key n history) := by
  rw [recent, recent, latest_revise, List.rtake, List.rtake, revise, revise, List.length_map,
    List.map_drop]

/-- Of entries with distinct keys at most one is changed. -/
theorem set_findIdx_eq_revise {entries : List α} (h : (keys key entries).Nodup) (entry : α) :
    entries.set (entries.findIdx fun a ↦ key a = key entry) entry = revise key entry entries := by
  induction entries with
  | nil => rfl
  | cons a entries ih =>
    obtain ⟨hnew, hnodup⟩ := List.nodup_cons.mp h
    by_cases heq : key a = key entry
    · have hrest : revise key entry entries = entries := by
        refine (List.map_congr_left (g := id) fun b hb ↦ if_neg fun hkey ↦ hnew ?_).trans
          (List.map_id entries)
        rw [heq, ← hkey]
        exact List.mem_map_of_mem hb
      rw [List.findIdx_cons, decide_eq_true heq, cond_true, List.set_cons_zero, revise,
        List.map_cons, if_pos heq, ← revise, hrest]
    · rw [List.findIdx_cons, decide_eq_false heq, cond_false, List.set_cons_succ, ih hnodup, revise,
        revise, List.map_cons, if_neg heq]

end YandexPay.Recent
