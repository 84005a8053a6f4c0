import YandexPay.Mastercard.KeysManager

/-!
# Agreement of the cache and the served keys

The worker of a `PublicKeysManager` serves its own initial download until the updater sends it a
newer set. `tracked` is the manager with the sets that were delivered to the worker, and `Agrees` is
what its users expect: a `Get` returns the set delivered last, a failed download changes nothing,
and while neither goroutine is at work the cache file holds the set that is served.

The cache is written twice in a start: by the worker after its initial download and by the updater
before it sends. `InOrder` is the condition on a run under which the two writes leave the right
set. When the worker writes late, over a set that the updater has saved and still holds, the file
stays behind the served set (`cache_disagrees`).
-/

set_option autoImplicit false
set_option relaxedAutoImplicit false

namespace YandexPay.Mastercard

open Transition

/-! ### Deliveries -/

/-- The key set that an event hands to the worker: its own download, or one that the updater
sends. -/
def delivers (env : Environment) (s : State env.Key) :
    Event env.Key → Option (JSONWebKeySet env.Key)
  | .initialDownload response => (download env response).toOption
  | .send =>
    match s.updater with
    | .sending keySet => some keySet
    | _ => none
  | _ => none

/-- A manager with the sets delivered to the worker so far, the latest first. -/
structure Tracked (κ : Type) extends State κ where
  delivered : List (JSONWebKeySet κ)

/-- `NewPublicKeysManager`, with its deliveries. -/
def tracked (env : Environment) : System (Tracked env.Key) (Event env.Key) where
  start := fun s ↦ (manager env).start s.toState ∧ s.delivered = []
  step := fun s e ↦ (step env s.toState e).map fun t ↦
    ⟨t, (delivers env s.toState e).toList ++ s.delivered⟩

def FailedDownload (env : Environment) : Event env.Key → Prop
  | .initialDownload response => ∃ error, download env response = .error error
  | .updateDownload response => ∃ error, download env response = .error error
  | _ => False

/-- The updater is neither downloading nor does it hold a set. -/
def Updater.Idle {κ : Type} : Updater κ → Prop
  | .waiting => True
  | .done => True
  | _ => False

/-- What the users of a manager expect of a state. -/
structure Agrees (env : Environment) (s : Tracked env.Key) : Prop where
  latest : ∀ keySet, s.delivered.head? = some keySet → ∀ t, step env s.toState .get = some t →
    t.answers = some keySet :: s.answers
  failures : ∀ e t, FailedDownload env e → step env s.toState e = some t →
    ∀ keys source, s.worker = .serving keys source → t.worker = .serving keys source
  cached : ∀ keys source, s.worker = .serving keys source → s.updater.Idle →
    (readCache env s.file).1 = keys

/-! ### Runs -/

/-- The writes of the cache succeed, so that what was written can be read again, and nobody else
writes the file. -/
def SavesCache (env : Environment) (s : State env.Key) : Event env.Key → Prop
  | .initialCacheUpdate written => ∀ keys, s.worker = .updatingCache keys →
    (readCache env (updateCache env keys written s.file)).1 = some keys
  | .cacheUpdate written => ∀ keySet, s.updater = .updatingCache keySet →
    (readCache env (updateCache env keySet written s.file)).1 = some keySet
  | .fileChange _ => False
  | _ => True

/-- The worker saves its initial download only while the updater holds no other set that it has
saved already, and the updater gives up no saved set while the worker serves another. -/
def InOrder (env : Environment) (s : State env.Key) : Event env.Key → Prop
  | .initialCacheUpdate _ => ∀ keys keySet, s.worker = .updatingCache keys →
    s.updater = .sending keySet → keys = keySet
  | .sendCancelled => ∀ keys source keySet, s.worker = .serving keys source →
    s.updater = .sending keySet → keys = some keySet
  | _ => True

/-- The runs in which the cache file should agree with the served keys. -/
def Saving (env : Environment) : Policy (Tracked env.Key) (Event env.Key) :=
  fun s e ↦ SavesCache env s.toState e

/-- Those of them in which the writes of the cache come in order. -/
def SavingInOrder (env : Environment) : Policy (Tracked env.Key) (Event env.Key) :=
  fun s e ↦ SavesCache env s.toState e ∧ InOrder env s.toState e

variable {env : Environment}

/-! ### What is served -/

/-- The worker has the set delivered last. -/
structure Delivered (s : State env.Key) (delivered : List (JSONWebKeySet env.Key)) : Prop where
  starting : s.worker = .downloading ∨ s.worker = .readingCache → delivered = []
  updating : ∀ keys, s.worker = .updatingCache keys → delivered.head? = some keys
  serving : ∀ keys source, s.worker = .serving keys source →
    ∀ keySet, delivered.head? = some keySet → keys = some keySet

/-- A step that leaves the worker as it is and delivers nothing. -/
theorem Delivered.of_worker_eq {s t : State env.Key} {delivered : List (JSONWebKeySet env.Key)}
    (h : Delivered s delivered) (hworker : t.worker = s.worker) : Delivered t delivered := by
  obtain ⟨hstarting, hupdating, hserving⟩ := h
  refine ⟨?_, ?_, ?_⟩ <;> rw [hworker] <;> assumption

theorem Delivered.step {s t : State env.Key} {e : Event env.Key}
    {delivered : List (JSONWebKeySet env.Key)} (h : Delivered s delivered)
    (hstep : Moves env s e t) : Delivered t ((delivers env s e).toList ++ delivered) := by
  cases hstep with
  | downloaded _ hok =>
    simp only [delivers, hok]
    refine ⟨by simp, ?_, by simp⟩
    intro keys hkeys
    obtain rfl := Worker.updatingCache.inj hkeys
    rfl
  | downloadFailed hworker herror =>
    simp only [delivers, herror]
    exact ⟨fun _ ↦ h.starting (Or.inl hworker), by simp, by simp⟩
  | initialCacheUpdate written hworker =>
    refine ⟨by simp, by simp, ?_⟩
    intro keys source hserving keySet hlast
    obtain ⟨rfl, -⟩ := Worker.serving.inj hserving
    exact (h.updating _ hworker).symm.trans hlast
  | cacheRead hworker =>
    refine ⟨by simp, by simp, ?_⟩
    intro keys source hserving keySet hlast
    rw [h.starting (Or.inr hworker)] at hlast
    cases hlast
  | send _ hupdater =>
    simp only [delivers, hupdater]
    refine ⟨by simp, by simp, ?_⟩
    intro keys source hserving keySet hlast
    obtain ⟨rfl, -⟩ := Worker.serving.inj hserving
    exact hlast
  | workerDone => exact ⟨by simp, by simp, by simp⟩
  | _ => exact h.of_worker_eq rfl

/-! ### What is in the file -/

/-- The file holds the set that the updater sends, and the one that is served while the updater
holds none. -/
structure Saved (env : Environment) (s : State env.Key) : Prop where
  sending : ∀ keySet, s.updater = .sending keySet → (readCache env s.file).1 = some keySet
  serving : ∀ keys source, s.worker = .serving keys source →
    s.updater.Idle ∨ s.updater = .downloading → (readCache env s.file).1 = keys

/-- An updater gives up only a set that it is sending. -/
theorem sending_of_sendCancelled {s t : State env.Key}
    (h : (manager env).step s .sendCancelled = some t) :
    ∃ keySet, s.updater = .sending keySet := by
  change step env s .sendCancelled = some t at h
  simp only [step] at h
  split at h
  · exact ⟨_, ‹_›⟩
  · cases h

theorem waiting_of_updaterDone {s t : State env.Key}
    (h : (manager env).step s .updaterDone = some t) : s.updater = .waiting := by
  change step env s .updaterDone = some t at h
  simp only [step] at h
  split at h
  · assumption
  · cases h

theorem Saved.step {s t : State env.Key} {e : Event env.Key} (h : Saved env s)
    (hsaves : SavesCache env s e) (horder : InOrder env s e)
    (hstep : (manager env).step s e = some t) : Saved env t := by
  obtain ⟨hsending, hserving⟩ := h
  cases moves_of_step hstep with
  | downloaded | downloadFailed => exact ⟨hsending, by simp⟩
  | initialCacheUpdate written hworker =>
    have hread := hsaves _ hworker
    refine ⟨fun keySet hupdater ↦ ?_, fun keys source hkeys _ ↦ ?_⟩
    · rw [← horder _ _ hworker hupdater]
      exact hread
    · obtain ⟨rfl, -⟩ := Worker.serving.inj hkeys
      exact hread
  | cacheRead =>
    refine ⟨hsending, fun keys source hkeys _ ↦ ?_⟩
    obtain ⟨rfl, -⟩ := Worker.serving.inj hkeys
    rfl
  | tick hupdater =>
    refine ⟨by simp, fun keys source hkeys _ ↦ hserving keys source hkeys (Or.inl ?_)⟩
    rw [hupdater]
    trivial
  | updateDownloaded => exact ⟨by simp, by simp [Updater.Idle]⟩
  | updateFailed hupdater =>
    exact ⟨by simp, fun keys source hkeys _ ↦ hserving keys source hkeys (Or.inr hupdater)⟩
  | cacheUpdate written hupdater =>
    refine ⟨fun keySet hsent ↦ ?_, by simp [Updater.Idle]⟩
    obtain rfl := Updater.sending.inj hsent
    exact hsaves _ hupdater
  | send _ hupdater =>
    refine ⟨by simp, fun keys source hkeys _ ↦ ?_⟩
    obtain ⟨rfl, -⟩ := Worker.serving.inj hkeys
    exact hsending _ hupdater
  | get | close => exact ⟨hsending, hserving⟩
  | workerDone => exact ⟨hsending, by simp⟩
  | sendCancelled =>
    obtain ⟨keySet, hupdater⟩ := sending_of_sendCancelled hstep
    refine ⟨by simp, fun keys source hkeys _ ↦ ?_⟩
    rw [horder keys source keySet hkeys hupdater]
    exact hsending keySet hupdater
  | updaterDone =>
    have hupdater := waiting_of_updaterDone hstep
    refine ⟨by simp, fun keys source hkeys _ ↦ hserving keys source hkeys (Or.inl ?_)⟩
    rw [hupdater]
    trivial
  | fileChange file => exact hsaves.elim

/-! ### Agreement -/

theorem tracked_step {s t : Tracked env.Key} {e : Event env.Key}
    (h : (tracked env).step s e = some t) : (manager env).step s.toState e = some t.toState ∧
      t.delivered = (delivers env s.toState e).toList ++ s.delivered := by
  obtain ⟨t', hstep, rfl⟩ := Option.map_eq_some_iff.mp h
  exact ⟨hstep, rfl⟩

theorem delivered_of_reachable {policy : Policy (Tracked env.Key) (Event env.Key)}
    {s : Tracked env.Key} (hs : (tracked env).Reachable policy s) :
    Delivered s.toState s.delivered := by
  refine hs.invariant (I := fun s ↦ Delivered s.toState s.delivered) ?_ ?_
  · rintro s ⟨⟨file, hstart⟩, hnone⟩
    rw [hstart]
    exact ⟨fun _ ↦ hnone, by simp, by simp⟩
  · intro s e t hdelivered _ hstep
    obtain ⟨hmanager, ht⟩ := tracked_step hstep
    rw [ht]
    exact hdelivered.step (moves_of_step hmanager)

theorem saved_of_reachable {s : Tracked env.Key}
    (hs : (tracked env).Reachable (SavingInOrder env) s) : Saved env s.toState := by
  refine hs.invariant (I := fun s ↦ Saved env s.toState) ?_ ?_
  · rintro s ⟨⟨file, hstart⟩, -⟩
    rw [hstart]
    exact ⟨by simp, by simp⟩
  · rintro s e t hsaved ⟨hsaves, horder⟩ hstep
    exact hsaved.step hsaves horder (tracked_step hstep).1

/-- A failed download leaves a serving worker as it is. -/
theorem worker_of_failedDownload {s t : State env.Key} {e : Event env.Key}
    (hfailed : FailedDownload env e) (hstep : (manager env).step s e = some t)
    {keys : Option (JSONWebKeySet env.Key)} {source : Source}
    (hserving : s.worker = .serving keys source) : t.worker = .serving keys source := by
  cases moves_of_step hstep with
  | downloaded hworker | downloadFailed hworker =>
    rw [hserving] at hworker
    cases hworker
  | updateDownloaded | updateFailed => exact hserving
  | _ => exact hfailed.elim

/-- In a run whose cache writes succeed and come in order, a manager agrees with its users in every
state. -/
theorem agrees_of_reachable (env : Environment) {s : Tracked env.Key}
    (hs : (tracked env).Reachable (SavingInOrder env) s) : Agrees env s where
  latest := by
    intro keySet hlast t hget
    have hstep : (manager env).step s.toState .get = some t := hget
    cases moves_of_step hstep with
    | get hserving =>
      rw [(delivered_of_reachable hs).serving _ _ hserving keySet hlast]
  failures := fun e t hfailed hstep keys source hserving ↦
    worker_of_failedDownload hfailed hstep hserving
  cached := fun keys source hserving hidle ↦
    (saved_of_reachable hs).serving keys source hserving (Or.inl hidle)

/-- Out of order the two goroutines disagree: the worker overwrites the set that the updater is
sending, and the served set is not in the file. -/
theorem cache_disagrees {s t u : State env.Key} {keys keySet : JSONWebKeySet env.Key}
    {written : Written} (hworker : s.worker = .updatingCache keys)
    (hupdater : s.updater = .sending keySet) (hne : keys ≠ keySet)
    (hsaves : SavesCache env s (.initialCacheUpdate written))
    (hsave : (manager env).step s (.initialCacheUpdate written) = some t)
    (hsend : (manager env).step t .send = some u) :
    u.worker = .serving (some keySet) .network ∧ u.updater = .waiting ∧
      (readCache env u.file).1 ≠ some keySet := by
  cases moves_of_step hsave with
  | initialCacheUpdate _ hworker' =>
    obtain rfl := Worker.updatingCache.inj (hworker.symm.trans hworker')
    cases moves_of_step hsend with
    | send _ hupdater' =>
      obtain rfl := Updater.sending.inj (hupdater.symm.trans hupdater')
      refine ⟨rfl, rfl, fun hread ↦ hne ?_⟩
      exact Option.some.inj ((hsaves keys hworker).symm.trans hread)

/-! ### Two downloads at the start -/

/-- A manager whose cache holds the identifier of the one key of a set. -/
def oneKeyEnvironment : Environment where
  Key := Unit
  cachePath := "/var/cache/mastercard-keys.json"
  isJSONType := fun contentType ↦ contentType = jsonType
  marshal := fun keySet ↦ .ok (keySet.Keys.flatMap fun key ↦ key.KeyID)
  unmarshal := fun data ↦ (⟨[⟨data, ()⟩]⟩, none)

def oneKey (kid : String) : JSONWebKeySet Unit := ⟨[⟨utf8 kid, ()⟩]⟩

/-- A successful download of one key. -/
def oneKeyResponse (kid : String) : Response Unit :=
  .received 200 (utf8 "200 OK") jsonType [] (oneKey kid)

/-- A manager that was not closed and has not been asked. -/
def managerWith (worker : Worker Unit) (updater : Updater Unit) (file : Option Bytes)
    (delivered : List (JSONWebKeySet Unit)) : Tracked oneKeyEnvironment.Key :=
  ⟨⟨worker, updater, file, false, []⟩, delivered⟩

theorem oneKey_saved (file : Option Bytes) (kid : String) :
    (readCache oneKeyEnvironment
      (updateCache oneKeyEnvironment (oneKey kid) .complete file)).1 = some (oneKey kid) := by
  have hdata : updateCache oneKeyEnvironment (oneKey kid) .complete file = some (utf8 kid) :=
    congrArg some (List.append_nil _)
  rw [hdata]
  rfl

theorem savesCache_worker {updater : Updater Unit} {file : Option Bytes} {kid : String}
    {delivered : List (JSONWebKeySet Unit)} : SavesCache oneKeyEnvironment
      (managerWith (.updatingCache (oneKey kid)) updater file delivered).toState
      (.initialCacheUpdate .complete) := by
  intro keys hworker
  obtain rfl := Worker.updatingCache.inj hworker
  exact oneKey_saved file kid

theorem savesCache_updater {worker : Worker Unit} {file : Option Bytes} {kid : String}
    {delivered : List (JSONWebKeySet Unit)} : SavesCache oneKeyEnvironment
      (managerWith worker (.updatingCache (oneKey kid)) file delivered).toState
      (.cacheUpdate .complete) := by
  intro keySet hupdater
  obtain rfl := Updater.updatingCache.inj hupdater
  exact oneKey_saved file kid

/-- The worker serves its initial download, then the updater sends a newer set. -/
theorem reachable_updated : (tracked oneKeyEnvironment).Reachable
    (SavingInOrder oneKeyEnvironment)
    (managerWith (.serving (some (oneKey "2")) .network) .waiting (some (utf8 "2"))
      [oneKey "2", oneKey "1"]) := by
  have hstart : (tracked oneKeyEnvironment).Reachable (SavingInOrder oneKeyEnvironment)
      (managerWith .downloading .waiting none []) := System.Reachable.of_start ⟨⟨none, rfl⟩, rfl⟩
  have hdownloaded : (tracked oneKeyEnvironment).Reachable (SavingInOrder oneKeyEnvironment)
      (managerWith (.updatingCache (oneKey "1")) .waiting none [oneKey "1"]) :=
    hstart.tail (e := .initialDownload (oneKeyResponse "1")) ⟨trivial, trivial⟩ rfl
  have hserving : (tracked oneKeyEnvironment).Reachable (SavingInOrder oneKeyEnvironment)
      (managerWith (.serving (some (oneKey "1")) .network) .waiting (some (utf8 "1"))
        [oneKey "1"]) :=
    hdownloaded.tail (e := .initialCacheUpdate .complete) ⟨savesCache_worker, by
      rintro keys keySet - ⟨⟩⟩ rfl
  have hupdating : (tracked oneKeyEnvironment).Reachable (SavingInOrder oneKeyEnvironment)
      (managerWith (.serving (some (oneKey "1")) .network) .downloading (some (utf8 "1"))
        [oneKey "1"]) := hserving.tail (e := .tick) ⟨trivial, trivial⟩ rfl
  have hupdated : (tracked oneKeyEnvironment).Reachable (SavingInOrder oneKeyEnvironment)
      (managerWith (.serving (some (oneKey "1")) .network) (.updatingCache (oneKey "2"))
        (some (utf8 "1")) [oneKey "1"]) :=
    hupdating.tail (e := .updateDownload (oneKeyResponse "2")) ⟨trivial, trivial⟩ rfl
  have hsending : (tracked oneKeyEnvironment).Reachable (SavingInOrder oneKeyEnvironment)
      (managerWith (.serving (some (oneKey "1")) .network) (.sending (oneKey "2"))
        (some (utf8 "2")) [oneKey "1"]) :=
    hupdated.tail (e := .cacheUpdate .complete) ⟨savesCache_updater, trivial⟩ rfl
  exact hsending.tail (e := .send) ⟨trivial, trivial⟩ rfl

theorem agrees_of_reachable_witness : Agrees oneKeyEnvironment
    (managerWith (.serving (some (oneKey "2")) .network) .waiting (some (utf8 "2"))
      [oneKey "2", oneKey "1"]) :=
  agrees_of_reachable oneKeyEnvironment reachable_updated

/-- The first download of the updater is faster than the one of the worker. -/
theorem reachable_overtaken : (tracked oneKeyEnvironment).Reachable (Saving oneKeyEnvironment)
    (managerWith (.serving (some (oneKey "2")) .network) .waiting (some (utf8 "1"))
      [oneKey "2", oneKey "1"]) := by
  have hstart : (tracked oneKeyEnvironment).Reachable (Saving oneKeyEnvironment)
      (managerWith .downloading .waiting none []) := System.Reachable.of_start ⟨⟨none, rfl⟩, rfl⟩
  have hupdating : (tracked oneKeyEnvironment).Reachable (Saving oneKeyEnvironment)
      (managerWith .downloading .downloading none []) := hstart.tail (e := .tick) trivial rfl
  have hupdated : (tracked oneKeyEnvironment).Reachable (Saving oneKeyEnvironment)
      (managerWith .downloading (.updatingCache (oneKey "2")) none []) :=
    hupdating.tail (e := .updateDownload (oneKeyResponse "2")) trivial rfl
  have hsending : (tracked oneKeyEnvironment).Reachable (Saving oneKeyEnvironment)
      (managerWith .downloading (.sending (oneKey "2")) (some (utf8 "2")) []) :=
    hupdated.tail (e := .cacheUpdate .complete) savesCache_updater rfl
  have hdownloaded : (tracked oneKeyEnvironment).Reachable (Saving oneKeyEnvironment)
      (managerWith (.updatingCache (oneKey "1")) (.sending (oneKey "2")) (some (utf8 "2"))
        [oneKey "1"]) :=
    hsending.tail (e := .initialDownload (oneKeyResponse "1")) trivial rfl
  have hserving : (tracked oneKeyEnvironment).Reachable (Saving oneKeyEnvironment)
      (managerWith (.serving (some (oneKey "1")) .network) (.sending (oneKey "2"))
        (some (utf8 "1")) [oneKey "1"]) :=
    hdownloaded.tail (e := .initialCacheUpdate .complete) savesCache_worker rfl
  exact hserving.tail (e := .send) trivial rfl

/-- The worker's write comes last, and the served set is not in the file. -/
theorem not_agrees_overtaken : ¬∀ (env : Environment) (s : Tracked env.Key),
    (tracked env).Reachable (Saving env) s → Agrees env s := by
  intro hagrees
  have hcached := (hagrees oneKeyEnvironment _ reachable_overtaken).cached _ _ rfl trivial
  have hread : some (oneKey "1") = some (oneKey "2") := hcached
  rw [Option.some.injEq, oneKey, oneKey, JSONWebKeySet.mk.injEq] at hread
  exact absurd (congrArg (List.map JSONWebKey.KeyID) hread) (by decide +kernel)

end YandexPay.Mastercard
