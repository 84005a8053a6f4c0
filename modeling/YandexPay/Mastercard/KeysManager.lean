import YandexPay.Library.GoOutcome
import YandexPay.Library.Transition

/-!
# The manager of public keys

`keys_manager.go` and the readers of keys in `client.go` of `duckgo/mastercard`. A worker downloads
a key set, or reads it from the cache when the download fails, and then answers every `Get` with
the set it has. An updater downloads again at every tick, saves the new set in the cache and sends
it to the worker. The two goroutines, the callers of `Get` and the cache file are one transition
system; a download, a write of the file and the sending of a set are steps of their own, so that
they may interleave.

A downloaded set is never empty. A set from the cache may be missing or empty, and the worker serves
it all the same: `answers_usable` says which `Get`s are answered with keys.
-/

set_option autoImplicit false
set_option relaxedAutoImplicit false

namespace YandexPay.Mastercard

open Transition Outcome

/-! ### Keys -/

structure JSONWebKey (κ : Type) where
  KeyID : Bytes
  key : κ

structure JSONWebKeySet (κ : Type) where
  Keys : List (JSONWebKey κ)

/-- The configuration of a manager, and the functions of other packages. -/
structure Environment where
  Key : Type
  cachePath : String
  /-- `resty.IsJSONType` -/
  isJSONType : Bytes → Bool
  /-- `json.Marshal` -/
  marshal : JSONWebKeySet Key → Except GoError Bytes
  /-- `json.Unmarshal` into a new key set, which it may fill in part before an error. -/
  unmarshal : Bytes → JSONWebKeySet Key × Option GoError

/-- The pointer of `Get` leads to at least one key. -/
def Usable {κ : Type} (keys : Option (JSONWebKeySet κ)) : Prop :=
  ∃ keySet, keys = some keySet ∧ keySet.Keys ≠ []

/-! ### Downloads and the cache -/

/-- What a request gives in the end, after the retries of the client. -/
inductive Response (κ : Type)
  | failed (error : GoError)
  | received (statusCode : ℕ) (status contentType body : Bytes) (result : JSONWebKeySet κ)

section Files

variable (env : Environment)

/-- `PublicKeysManager.download` -/
def download : Response env.Key → Except GoError (JSONWebKeySet env.Key)
  | .failed error => .error error
  | .received statusCode status contentType body result =>
    if statusCode > 399 then
      .error (.errorf "mastercard keys manager: response status: %s" status)
    else if ¬ env.isJSONType contentType then
      .error (.errorf "mastercard keys manager: unknown content type: %s" contentType)
    else if result.Keys.length = 0 then
      .error (.errorf "mastercard keys manager: empty keyset: %s" body)
    else .ok result

/-- `PublicKeysManager.readCache`; a file is its content, if it can be read. The caller gets the
key set together with the error of `json.Unmarshal`. -/
def readCache (file : Option Bytes) : Option (JSONWebKeySet env.Key) × Option GoError :=
  if env.cachePath = "" then
    (none, some (.errorf "mastercard keys manager: cachePath not set" []))
  else
    match file with
    | none => (none, some (.library "ioutil.ReadFile"))
    | some cachedData =>
      let result := env.unmarshal cachedData
      (some result.1, result.2)

/-- The end of a write: the whole content, or a failure that may leave anything. -/
inductive Written
  | complete
  | failed (left : Option Bytes)

/-- `PublicKeysManager.updateCache`, which only logs its errors. -/
def updateCache (keys : JSONWebKeySet env.Key) (written : Written) (file : Option Bytes) :
    Option Bytes :=
  if env.cachePath = "" then file
  else
    match env.marshal keys, written with
    | .error _, _ => file
    | .ok data, .complete => some data
    | .ok _, .failed left => left

end Files

/-! ### Goroutines -/

/-- Where a served key set comes from; kept for the statements only. -/
inductive Source
  | network
  | cache (file : Option Bytes)

/-- The goroutine of `PublicKeysManager.worker`. -/
inductive Worker (κ : Type)
  | downloading
  | readingCache
  | updatingCache (keys : JSONWebKeySet κ)
  | serving (keys : Option (JSONWebKeySet κ)) (source : Source)
  | done

/-- The goroutine of `PublicKeysManager.updater`, with `updateKeys`. -/
inductive Updater (κ : Type)
  | waiting
  | downloading
  | updatingCache (keySet : JSONWebKeySet κ)
  | sending (keySet : JSONWebKeySet κ)
  | done

/-- A manager, the cache file and what the calls of `Get` have returned so far, the latest first. -/
structure State (κ : Type) where
  worker : Worker κ
  updater : Updater κ
  file : Option Bytes
  cancelled : Bool
  answers : List (Option (JSONWebKeySet κ))

inductive Event (κ : Type)
  | initialDownload (response : Response κ)
  | initialCacheUpdate (written : Written)
  | cacheRead
  | tick
  | updateDownload (response : Response κ)
  | cacheUpdate (written : Written)
  | send
  | get
  | close
  | workerDone
  | sendCancelled
  | updaterDone
  | fileChange (file : Option Bytes)

def step (env : Environment) (s : State env.Key) : Event env.Key → Option (State env.Key)
  | .initialDownload response =>
    match s.worker with
    | .downloading =>
      match download env response with
      | .ok keys => some { s with worker := .updatingCache keys }
      | .error _ => some { s with worker := .readingCache }
    | _ => none
  | .initialCacheUpdate written =>
    match s.worker with
    | .updatingCache keys => some { s with
        worker := .serving (some keys) .network
        file := updateCache env keys written s.file }
    | _ => none
  | .cacheRead =>
    match s.worker with
    -- The key set is kept whether or not there is an error.
    | .readingCache =>
      some { s with worker := .serving (readCache env s.file).1 (.cache s.file) }
    | _ => none
  | .tick =>
    match s.updater with
    | .waiting => some { s with updater := .downloading }
    | _ => none
  | .updateDownload response =>
    match s.updater with
    | .downloading =>
      match download env response with
      | .ok keySet => some { s with updater := .updatingCache keySet }
      | .error _ => some { s with updater := .waiting }
    | _ => none
  | .cacheUpdate written =>
    match s.updater with
    | .updatingCache keySet => some { s with
        updater := .sending keySet
        file := updateCache env keySet written s.file }
    | _ => none
  | .send =>
    match s.worker, s.updater with
    | .serving _ _, .sending keySet => some { s with
        worker := .serving (some keySet) .network
        updater := .waiting }
    | _, _ => none
  | .get =>
    match s.worker with
    | .serving keys _ => some { s with answers := keys :: s.answers }
    | _ => none
  | .close => some { s with cancelled := true }
  | .workerDone =>
    match s.worker, s.cancelled with
    | .serving _ _, true => some { s with worker := .done }
    | _, _ => none
  | .sendCancelled =>
    match s.updater, s.cancelled with
    | .sending _, true => some { s with updater := .waiting }
    | _, _ => none
  | .updaterDone =>
    match s.updater, s.cancelled with
    | .waiting, true => some { s with updater := .done }
    | _, _ => none
  | .fileChange file => some { s with file := file }

/-- `NewPublicKeysManager`, with any cache file. -/
def manager (env : Environment) : System (State env.Key) (Event env.Key) where
  start := fun s ↦ ∃ file, s = ⟨.downloading, .waiting, file, false, []⟩
  step := step env

/-- What a step does, with the conditions under which it does so. -/
inductive Moves (env : Environment) (s : State env.Key) : Event env.Key → State env.Key → Prop
  | downloaded {response : Response env.Key} {keys : JSONWebKeySet env.Key}
    (worker : s.worker = .downloading) (ok : download env response = .ok keys) :
    Moves env s (.initialDownload response) { s with worker := .updatingCache keys }
  | downloadFailed {response : Response env.Key} {error : GoError}
    (worker : s.worker = .downloading) (error : download env response = .error error) :
    Moves env s (.initialDownload response) { s with worker := .readingCache }
  | initialCacheUpdate (written : Written) {keys : JSONWebKeySet env.Key}
    (worker : s.worker = .updatingCache keys) :
    Moves env s (.initialCacheUpdate written) { s with
      worker := .serving (some keys) .network
      file := updateCache env keys written s.file }
  | cacheRead (worker : s.worker = .readingCache) :
    Moves env s .cacheRead { s with
      worker := .serving (readCache env s.file).1 (.cache s.file) }
  | tick (updater : s.updater = .waiting) : Moves env s .tick { s with updater := .downloading }
  | updateDownloaded {response : Response env.Key} {keySet : JSONWebKeySet env.Key}
    (updater : s.updater = .downloading) (ok : download env response = .ok keySet) :
    Moves env s (.updateDownload response) { s with updater := .updatingCache keySet }
  | updateFailed {response : Response env.Key} {error : GoError}
    (updater : s.updater = .downloading) (error : download env response = .error error) :
    Moves env s (.updateDownload response) { s with updater := .waiting }
  | cacheUpdate (written : Written) {keySet : JSONWebKeySet env.Key}
    (updater : s.updater = .updatingCache keySet) :
    Moves env s (.cacheUpdate written) { s with
      updater := .sending keySet
      file := updateCache env keySet written s.file }
  | send {keys : Option (JSONWebKeySet env.Key)} {source : Source}
    {keySet : JSONWebKeySet env.Key} (worker : s.worker = .serving keys source)
    (updater : s.updater = .sending keySet) :
    Moves env s .send { s with
      worker := .serving (some keySet) .network
      updater := .waiting }
  | get {keys : Option (JSONWebKeySet env.Key)} {source : Source}
    (worker : s.worker = .serving keys source) :
    Moves env s .get { s with answers := keys :: s.answers }
  | close : Moves env s .close { s with cancelled := true }
  | workerDone (cancelled : s.cancelled = true) :
    Moves env s .workerDone { s with worker := .done }
  | sendCancelled (cancelled : s.cancelled = true) :
    Moves env s .sendCancelled { s with updater := .waiting }
  | updaterDone (cancelled : s.cancelled = true) :
    Moves env s .updaterDone { s with updater := .done }
  | fileChange (file : Option Bytes) : Moves env s (.fileChange file) { s with file := file }

theorem moves_of_step {env : Environment} {s t : State env.Key} {e : Event env.Key}
    (h : (manager env).step s e = some t) : Moves env s e t := by
  change step env s e = some t at h
  cases e with
  | initialDownload response =>
    simp only [step] at h
    split at h
    · split at h <;> obtain rfl := Option.some.inj h
      · exact .downloaded ‹_› ‹_›
      · exact .downloadFailed ‹_› ‹_›
    · cases h
  | updateDownload response =>
    simp only [step] at h
    split at h
    · split at h <;> obtain rfl := Option.some.inj h
      · exact .updateDownloaded ‹_› ‹_›
      · exact .updateFailed ‹_› ‹_›
    · cases h
  | initialCacheUpdate written =>
    simp only [step] at h
    split at h
    · obtain rfl := Option.some.inj h
      exact .initialCacheUpdate written ‹_›
    · cases h
  | cacheRead =>
    simp only [step] at h
    split at h
    · obtain rfl := Option.some.inj h
      exact .cacheRead ‹_›
    · cases h
  | tick =>
    simp only [step] at h
    split at h
    · obtain rfl := Option.some.inj h
      exact .tick ‹_›
    · cases h
  | cacheUpdate written =>
    simp only [step] at h
    split at h
    · obtain rfl := Option.some.inj h
      exact .cacheUpdate written ‹_›
    · cases h
  | send =>
    simp only [step] at h
    split at h
    · obtain rfl := Option.some.inj h
      exact .send ‹_› ‹_›
    · cases h
  | get =>
    simp only [step] at h
    split at h
    · obtain rfl := Option.some.inj h
      exact .get ‹_›
    · cases h
  | close =>
    obtain rfl := Option.some.inj h
    exact .close
  | workerDone =>
    simp only [step] at h
    split at h
    · obtain rfl := Option.some.inj h
      exact .workerDone ‹_›
    · cases h
  | sendCancelled =>
    simp only [step] at h
    split at h
    · obtain rfl := Option.some.inj h
      exact .sendCancelled ‹_›
    · cases h
  | updaterDone =>
    simp only [step] at h
    split at h
    · obtain rfl := Option.some.inj h
      exact .updaterDone ‹_›
    · cases h
  | fileChange file =>
    obtain rfl := Option.some.inj h
    exact .fileChange file

/-! ### Readers of keys -/

/-- `strings.SplitN(s, sep, 2)` for a separator of one byte, when it gives two parts. -/
def splitN2 (sep : UInt8) (s : Bytes) : Option (Bytes × Bytes) :=
  match s.span (· ≠ sep) with
  | (_, []) => none
  | (first, _ :: rest) => some (first, rest)

/-- `Client.getFPANEncryptionKey` on the answer of `Get`; 45 is the dash. -/
def getFPANEncryptionKey {κ : Type} (answer : Option (JSONWebKeySet κ)) :
    Outcome (JSONWebKey κ) := do
  let keys ← deref answer
  let key := keys.Keys.find? fun key ↦
    match splitN2 45 key.KeyID with
    | none => false
    | some (_, purpose) => purpose = utf8 "src-fpan-encryption"
  ofOption (.errorf "mastercard: fpan encryption key not found" []) key

/-- `Client.getSRCPayloadVerificationKey` on the answer of `Get`. -/
def getSRCPayloadVerificationKey {κ : Type} (kid : Bytes) (answer : Option (JSONWebKeySet κ)) :
    Outcome (JSONWebKey κ) := do
  let keys ← deref answer
  ofOption (.errorf "mastercard: src payload verification key not found" [])
    (keys.Keys.find? fun key ↦ kid = key.KeyID)

theorem getFPANEncryptionKey_eq_panic {κ : Type} {answer : Option (JSONWebKeySet κ)} :
    getFPANEncryptionKey answer = .panic ↔ answer = none := by
  rw [getFPANEncryptionKey, bind_eq_panic_iff_left fun _ _ ↦ ofOption_ne_panic _ _,
    deref_eq_panic]

theorem getSRCPayloadVerificationKey_eq_panic {κ : Type} {kid : Bytes}
    {answer : Option (JSONWebKeySet κ)} :
    getSRCPayloadVerificationKey kid answer = .panic ↔ answer = none := by
  rw [getSRCPayloadVerificationKey, bind_eq_panic_iff_left fun _ _ ↦ ofOption_ne_panic _ _,
    deref_eq_panic]

/-! ### What is served -/

variable {env : Environment}

theorem download_ok {response : Response env.Key} {keys : JSONWebKeySet env.Key}
    (h : download env response = .ok keys) : keys.Keys ≠ [] := by
  cases response with
  | failed error => cases h
  | received statusCode status contentType body result =>
    rw [download] at h
    split_ifs at h with hstatus htype hlength
    obtain rfl := Except.ok.inj h
    exact fun hnil ↦ hlength (congrArg List.length hnil)

/-- A source that yields keys: the network always, a cache file when a key can be read from it. -/
def Source.Yields (env : Environment) : Source → Prop
  | .network => True
  | .cache none => False
  | .cache (some cachedData) => env.cachePath ≠ "" ∧ (env.unmarshal cachedData).1.Keys ≠ []

theorem readCache_usable {file : Option Bytes} :
    Usable (readCache env file).1 ↔ (Source.cache file).Yields env := by
  cases file with
  | none =>
    refine iff_of_false ?_ id
    rintro ⟨keySet, hkeySet, -⟩
    rw [readCache] at hkeySet
    split_ifs at hkeySet
  | some cachedData =>
    by_cases hpath : env.cachePath = ""
    · refine iff_of_false ?_ fun h ↦ h.1 hpath
      rintro ⟨keySet, hkeySet, -⟩
      rw [readCache, if_pos hpath] at hkeySet
      cases hkeySet
    · have hread : (readCache env (some cachedData)).1 =
          some (env.unmarshal cachedData).1 := by
        rw [readCache, if_neg hpath]
      rw [hread]
      constructor
      · rintro ⟨keySet, hkeySet, hne⟩
        obtain rfl := Option.some.inj hkeySet
        exact ⟨hpath, hne⟩
      · exact fun h ↦ ⟨_, rfl, h.2⟩

/-- A downloaded set has keys, and a served set has keys exactly if its source yields them. -/
def Worker.Holds (env : Environment) : Worker env.Key → Prop
  | .updatingCache keys => keys.Keys ≠ []
  | .serving keys source => Usable keys ↔ source.Yields env
  | _ => True

def Updater.Holds {κ : Type} : Updater κ → Prop
  | .updatingCache keySet => keySet.Keys ≠ []
  | .sending keySet => keySet.Keys ≠ []
  | _ => True

structure Holds (env : Environment) (s : State env.Key) : Prop where
  worker : s.worker.Holds env
  updater : s.updater.Holds

theorem usable_network {keys : JSONWebKeySet env.Key} (h : keys.Keys ≠ []) :
    Usable (some keys) ↔ Source.network.Yields env := iff_of_true ⟨keys, rfl, h⟩ trivial

theorem holds_step {s t : State env.Key} {e : Event env.Key} (h : Holds env s)
    (hstep : Moves env s e t) : Holds env t := by
  obtain ⟨hworker, hupdater⟩ := h
  cases hstep with
  | downloaded _ hok => exact ⟨download_ok hok, hupdater⟩
  | downloadFailed => exact ⟨trivial, hupdater⟩
  | initialCacheUpdate written hkeys =>
    rw [hkeys] at hworker
    exact ⟨usable_network hworker, hupdater⟩
  | cacheRead => exact ⟨readCache_usable, hupdater⟩
  | tick => exact ⟨hworker, trivial⟩
  | updateDownloaded _ hok => exact ⟨hworker, download_ok hok⟩
  | updateFailed => exact ⟨hworker, trivial⟩
  | cacheUpdate written hkeySet =>
    rw [hkeySet] at hupdater
    exact ⟨hworker, hupdater⟩
  | send _ hsending =>
    rw [hsending] at hupdater
    exact ⟨usable_network hupdater, trivial⟩
  | get => exact ⟨hworker, hupdater⟩
  | close => exact ⟨hworker, hupdater⟩
  | workerDone => exact ⟨trivial, hupdater⟩
  | sendCancelled => exact ⟨hworker, trivial⟩
  | updaterDone => exact ⟨hworker, trivial⟩
  | fileChange file => exact ⟨hworker, hupdater⟩

theorem holds_of_reachable {policy : Policy (State env.Key) (Event env.Key)} {s : State env.Key}
    (hs : (manager env).Reachable policy s) : Holds env s := by
  refine hs.invariant ?_ fun s e t h _ hstep ↦ holds_step h (moves_of_step hstep)
  rintro s ⟨file, rfl⟩
  exact ⟨trivial, trivial⟩

/-! ### Answers -/

/-- A `Get` is answered only while the set that the worker serves is from a source that yields
keys. -/
def ServedFromKeys (env : Environment) (s : State env.Key) : Event env.Key → Prop
  | .get => ∀ keys source, s.worker = .serving keys source → source.Yields env
  | _ => True

/-- The key sets that a caller can read. -/
structure Readable {κ : Type} (answer : Option (JSONWebKeySet κ)) : Prop where
  usable : Usable answer
  getFPANEncryptionKey_ne_panic : getFPANEncryptionKey answer ≠ .panic
  getSRCPayloadVerificationKey_ne_panic : ∀ kid,
    getSRCPayloadVerificationKey kid answer ≠ .panic

theorem Usable.readable {κ : Type} {answer : Option (JSONWebKeySet κ)} (h : Usable answer) :
    Readable answer := by
  obtain ⟨keySet, rfl, hne⟩ := h
  exact ⟨⟨keySet, rfl, hne⟩, mt getFPANEncryptionKey_eq_panic.mp (Option.some_ne_none _),
    fun kid ↦ mt getSRCPayloadVerificationKey_eq_panic.mp (Option.some_ne_none _)⟩

/-- Every step but a `Get` leaves the answers as they are. -/
theorem answers_step {s t : State env.Key} {e : Event env.Key} (hstep : Moves env s e t) :
    t.answers = s.answers ∨ ∃ keys source, e = .get ∧ s.worker = .serving keys source ∧
      t.answers = keys :: s.answers := by
  cases hstep with
  | get hserving => exact Or.inr ⟨_, _, rfl, hserving, rfl⟩
  | _ => exact Or.inl rfl

/-- In a run whose `Get`s are all served from sources that yield keys, every answer can be read; in
any run, the answer of a `Get` is usable exactly if its source yields keys. -/
theorem answers_usable (env : Environment) :
    (∀ s, (manager env).Reachable (ServedFromKeys env) s → ∀ answer ∈ s.answers,
      Readable answer) ∧
    ∀ s t, (manager env).Reachable (fun _ _ ↦ True) s → (manager env).step s .get = some t →
      ∃ answer, t.answers = answer :: s.answers ∧
        (Readable answer ↔ ServedFromKeys env s .get) := by
  constructor
  · intro s hs
    refine hs.invariant_of (I := fun s ↦ ∀ answer ∈ s.answers, Readable answer)
      (fun s hs ↦ holds_of_reachable hs) ?_ ?_
    · rintro s ⟨file, rfl⟩ answer hmem
      exact absurd hmem List.not_mem_nil
    · intro s e t hholds hanswers hpolicy hstep
      rcases answers_step (moves_of_step hstep) with hsame | ⟨keys, source, rfl, hserving, ht⟩
      · rw [hsame]
        exact hanswers
      · rw [ht, List.forall_mem_cons]
        have hworker := hholds.worker
        rw [hserving] at hworker
        exact ⟨(hworker.mpr (hpolicy keys source hserving)).readable, hanswers⟩
  · intro s t hs hstep
    have hworker := (holds_of_reachable hs).worker
    cases moves_of_step hstep with
    | get hserving =>
      rename_i keys source
      rw [hserving] at hworker
      refine ⟨keys, rfl, ?_, ?_⟩
      · rintro hread other origin hother
        obtain ⟨rfl, rfl⟩ := Worker.serving.inj (hserving.symm.trans hother)
        exact hworker.mp hread.usable
      · exact fun h ↦ (hworker.mpr (h keys source hserving)).readable

/-! ### A start without the network -/

/-- The default headers of a JSON reply. -/
def jsonType : Bytes := utf8 "application/json"

/-- A manager with a cache file; of the files only the empty object and the empty file are read. -/
def cachingEnvironment : Environment where
  Key := Unit
  cachePath := "/var/cache/mastercard-keys.json"
  isJSONType := fun contentType ↦ contentType = jsonType
  marshal := fun _ ↦ .ok (utf8 "\x7b\x7d")
  unmarshal := fun data ↦
    (⟨[]⟩, if data = [] then some (.library "unexpected end of JSON input") else none)

def fpanKeySet : JSONWebKeySet Unit := ⟨[⟨utf8 "1-src-fpan-encryption", ()⟩]⟩

/-- The network answers, the set is saved and a `Get` is answered. -/
theorem reachable_warmStart : (manager cachingEnvironment).Reachable
    (ServedFromKeys cachingEnvironment)
    ⟨.serving (some fpanKeySet) .network, .waiting, some (utf8 "\x7b\x7d"), false,
      [some fpanKeySet]⟩ := by
  have hdownload : (manager cachingEnvironment).Leads (ServedFromKeys cachingEnvironment)
      ⟨.downloading, .waiting, none, false, []⟩
      ⟨.updatingCache fpanKeySet, .waiting, none, false, []⟩ :=
    (System.Leads.refl _).tail
      (e := .initialDownload (.received 200 (utf8 "200 OK") jsonType [] fpanKeySet)) trivial rfl
  have hserve : (manager cachingEnvironment).Leads (ServedFromKeys cachingEnvironment)
      ⟨.downloading, .waiting, none, false, []⟩
      ⟨.serving (some fpanKeySet) .network, .waiting, some (utf8 "\x7b\x7d"), false, []⟩ :=
    hdownload.tail (e := .initialCacheUpdate .complete) trivial rfl
  refine ⟨_, ⟨none, rfl⟩, hserve.tail (e := .get) ?_ rfl⟩
  intro keys source hserving
  obtain ⟨-, rfl⟩ := Worker.serving.inj hserving
  trivial

theorem answers_usable_witness : Readable (some fpanKeySet) :=
  (answers_usable cachingEnvironment).1 _ reachable_warmStart (some fpanKeySet)
    (List.mem_singleton_self _)

/-- The network does not answer, and the cache is read. -/
def coldStart : List (Event cachingEnvironment.Key) :=
  [.initialDownload (.failed (.library "context deadline exceeded")), .cacheRead, .get]

def started (file : Option Bytes) : State cachingEnvironment.Key :=
  ⟨.downloading, .waiting, file, false, []⟩

/-- Without a cache file a `Get` returns nil, on which `getFPANEncryptionKey` panics; with a file
that holds an empty object it returns an empty set. -/
theorem served_without_keys :
    (∃ s, (manager cachingEnvironment).Reachable (fun _ _ ↦ True) s ∧ s.answers = [none] ∧
      ∀ answer ∈ s.answers, getFPANEncryptionKey answer = .panic) ∧
    ∃ s, (manager cachingEnvironment).Reachable (fun _ _ ↦ True) s ∧
      s.answers = [some ⟨[]⟩] := by
  have hstart : ∀ file, (manager cachingEnvironment).start (started file) :=
    fun file ↦ ⟨file, rfl⟩
  have habsent : ((manager cachingEnvironment).run (fun _ _ ↦ True) (started none)
      coldStart).isSome := rfl
  have hempty : ((manager cachingEnvironment).run (fun _ _ ↦ True)
      (started (some (utf8 "\x7b\x7d"))) coldStart).isSome := rfl
  refine ⟨⟨_, System.reachable_get (hstart _) habsent, rfl, ?_⟩,
    _, System.reachable_get (hstart _) hempty, rfl⟩
  intro answer hmem
  obtain rfl : answer = none := List.mem_singleton.mp hmem
  rfl

end YandexPay.Mastercard
