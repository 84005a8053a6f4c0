import YandexPay.Library.GoOutcome

/-!
# HTTP handlers

What a handler of `net/http` does to its `http.ResponseWriter` is a trace of events, and it goes on
with a value, returns early or panics. `OneResponse` is what a client expects of a handler that
answers with documents: one status and one document, nothing after an error, and no success after a
failure. There is a rule for each statement of a handler: a call whose error is answered before the
handler returns (`oneResponse_orReturn`), a check (`oneResponse_checkOrReturn`), and the events of
what is written last.
-/

set_option autoImplicit false
set_option relaxedAutoImplicit false

namespace YandexPay

namespace HttpHandler

variable {δ α β γ : Type}

/-! ### Handlers -/

/-- What a handler does; documents are of type `δ`. -/
inductive Event (δ : Type)
  /-- A check or a call fails; kept for the statements only. -/
  | failed
  | setHeader (key value : String)
  | writeHeader (statusCode : ℕ)
  | write (document : δ)

inductive Exit (α : Type)
  | next (value : α)
  | returned
  | panicked

theorem Exit.next_ne_panicked (value : α) : (.next value : Exit α) ≠ .panicked :=
  fun h ↦ by cases h

theorem Exit.returned_ne_panicked : (.returned : Exit α) ≠ .panicked := fun h ↦ by cases h

/-- A part of a handler. -/
structure Handling (δ α : Type) where
  trace : List (Event δ)
  exit : Exit α

namespace Handling

protected def bind (m : Handling δ α) (f : α → Handling δ β) : Handling δ β :=
  match m.exit with
  | .next value => ⟨m.trace ++ (f value).trace, (f value).exit⟩
  | .returned => ⟨m.trace, .returned⟩
  | .panicked => ⟨m.trace, .panicked⟩

instance : Monad (Handling δ) where
  pure value := ⟨[], .next value⟩
  bind := Handling.bind

theorem pure_bind (value : α) (f : α → Handling δ β) : pure value >>= f = f value := rfl

theorem bind_of_next {trace : List (Event δ)} {value : α} (f : α → Handling δ β) :
    (⟨trace, .next value⟩ : Handling δ α) >>= f = ⟨trace ++ (f value).trace, (f value).exit⟩ := rfl

theorem bind_assoc (m : Handling δ α) (f : α → Handling δ β) (g : β → Handling δ γ) :
    m >>= f >>= g = m >>= fun value ↦ f value >>= g := by
  obtain ⟨trace, exit⟩ := m
  cases exit with
  | next value =>
    rw [bind_of_next, bind_of_next]
    obtain ⟨trace', exit'⟩ := f value
    cases exit' with
    | next value' => rw [bind_of_next, bind_of_next, List.append_assoc]
    | returned => rfl
    | panicked => rfl
  | returned => rfl
  | panicked => rfl

def emit (event : Event δ) : Handling δ Unit := ⟨[event], .next ()⟩

def setHeader (key value : String) : Handling δ Unit := emit (.setHeader key value)

def setHeaders (headers : List (String × String)) : Handling δ Unit :=
  ⟨headers.map fun header ↦ .setHeader header.1 header.2, .next ()⟩

def write (document : δ) : Handling δ Unit := emit (.write document)

/-- `return` -/
def exitHandler : Handling δ α := ⟨[], .returned⟩

def panic : Handling δ α := ⟨[], .panicked⟩

/-- A status has three digits. -/
def writeHeader (statusCode : ℕ) : Handling δ Unit :=
  if 100 ≤ statusCode ∧ statusCode ≤ 999 then emit (.writeHeader statusCode) else panic

/-- The value behind a pointer. -/
def derefPointer : Option α → Handling δ α
  | some value => pure value
  | none => panic

/-- Answers a failure and returns. -/
def fail (answer : Handling δ Unit) : Handling δ α := do
  emit .failed
  answer
  exitHandler

/-- The value of a call, or the answer to its error and `return`. -/
def orReturn (answer : GoError → Handling δ Unit) : Outcome α → Handling δ α
  | .ok value => pure value
  | .err error => fail (answer error)
  | .panic => panic

/-- The value of a call, or the answer to its error, after which the handler goes on with nil. -/
def orContinue (answer : GoError → Handling δ Unit) : Outcome α → Handling δ (Option α)
  | .ok value => pure (some value)
  | .err error => do
    emit .failed
    answer error
    return none
  | .panic => panic

/-- Goes on when the condition holds. -/
def checkOrReturn (condition : Bool) (answer : Handling δ Unit) : Handling δ Unit :=
  if condition then pure () else fail answer

end Handling

/-! ### Responses -/

/-- The statuses that are written once there is one. -/
def laterStatuses (trace : List (Event δ)) : List ℕ :=
  trace.filterMap fun
    | .writeHeader statusCode => some statusCode
    | _ => none

/-- The statuses that are written; a document before the first one writes 200. -/
def statuses : List (Event δ) → List ℕ
  | [] => []
  | .writeHeader statusCode :: trace => statusCode :: laterStatuses trace
  | .write _ :: trace => 200 :: laterStatuses trace
  | .failed :: trace => statuses trace
  | .setHeader _ _ :: trace => statuses trace

def documents (trace : List (Event δ)) : List δ :=
  trace.filterMap fun
    | .write document => some document
    | _ => none

/-- Neither the status nor a document is that of a success. -/
structure NoSuccess (Success : δ → Prop) (trace : List (Event δ)) : Prop where
  status : 200 ∉ statuses trace
  document : ∀ document ∈ documents trace, ¬ Success document

/-- One status and one document, nothing after an error, and no success after a failure. -/
structure OneResponse (Success : δ → Prop) (m : Handling δ α) : Prop where
  returns : m.exit ≠ .panicked
  status : ∃ statusCode, statuses m.trace = [statusCode]
  document : ∃ document, documents m.trace = [document]
  silent : ∀ before document after, m.trace = before ++ .write document :: after →
    ¬ Success document → after = []
  honest : .failed ∈ m.trace → NoSuccess Success m.trace

/-! ### Traces -/

variable {Success : δ → Prop} {trace : List (Event δ)} {exit : Exit α} {document : δ}

/-- An event before a trace, that is not a document, does not come behind one of its documents. -/
theorem silent_cons {event : Event δ} (hevent : ∀ document, event ≠ .write document) :
    (∀ before document after, event :: trace = before ++ .write document :: after →
      ¬ Success document → after = []) ↔
    ∀ before document after, trace = before ++ .write document :: after →
      ¬ Success document → after = [] := by
  constructor
  · intro h before document after htrace
    exact h (event :: before) document after (congrArg (List.cons event) htrace)
  · intro h before document after htrace
    cases before with
    | nil => exact absurd (List.cons.inj htrace).1 (hevent document)
    | cons first before => exact h before document after (List.cons.inj htrace).2

theorem documents_setHeaders (headers : List (String × String)) :
    documents (headers.map (fun header ↦ .setHeader header.1 header.2) ++ trace) =
      documents trace := by
  induction headers with
  | nil => rfl
  | cons header headers ih => exact ih

theorem noSuccess_setHeader {key value : String} :
    NoSuccess Success (.setHeader key value :: trace) ↔ NoSuccess Success trace :=
  ⟨fun h ↦ ⟨h.status, h.document⟩, fun h ↦ ⟨h.status, h.document⟩⟩

theorem noSuccess_setHeaders {headers : List (String × String)} :
    NoSuccess Success (headers.map (fun header ↦ .setHeader header.1 header.2) ++ trace) ↔
      NoSuccess Success trace := by
  induction headers with
  | nil => exact Iff.rfl
  | cons header headers ih => exact noSuccess_setHeader.trans ih

theorem noSuccess_writeHeader {statusCode : ℕ} (hcode : statusCode ≠ 200)
    (hdocument : ¬ Success document) :
    NoSuccess Success [.writeHeader statusCode, .write document] := by
  refine ⟨fun h ↦ hcode (List.mem_singleton.mp h).symm, fun d hd ↦ ?_⟩
  rw [List.mem_singleton.mp (show d ∈ [document] from hd)]
  exact hdocument

theorem oneResponse_setHeader {key value : String} :
    OneResponse Success (⟨.setHeader key value :: trace, exit⟩ : Handling δ α) ↔
      OneResponse Success ⟨trace, exit⟩ := by
  have hsilent := @silent_cons δ Success trace (.setHeader key value) (fun _ ↦ by simp)
  constructor
  · rintro ⟨hreturns, hstatus, hdocument, hs, hhonest⟩
    refine ⟨hreturns, hstatus, hdocument, hsilent.mp hs, fun hmem ↦ ?_⟩
    exact noSuccess_setHeader.mp (hhonest (List.mem_cons_of_mem _ hmem))
  · rintro ⟨hreturns, hstatus, hdocument, hs, hhonest⟩
    refine ⟨hreturns, hstatus, hdocument, hsilent.mpr hs, fun hmem ↦ ?_⟩
    refine noSuccess_setHeader.mpr (hhonest ?_)
    exact (List.mem_cons.mp hmem).resolve_left fun h ↦ nomatch h

theorem oneResponse_setHeaders {headers : List (String × String)} :
    OneResponse Success (⟨headers.map (fun header ↦ .setHeader header.1 header.2) ++ trace, exit⟩ :
      Handling δ α) ↔ OneResponse Success ⟨trace, exit⟩ := by
  induction headers with
  | nil => exact Iff.rfl
  | cons header headers ih => exact oneResponse_setHeader.trans ih

/-- After a failure, one response is one that is no success. -/
theorem oneResponse_failed :
    OneResponse Success (⟨.failed :: trace, exit⟩ : Handling δ α) ↔
      OneResponse Success ⟨trace, exit⟩ ∧ NoSuccess Success trace := by
  have hsilent := @silent_cons δ Success trace .failed (fun _ ↦ by simp)
  constructor
  · rintro ⟨hreturns, hstatus, hdocument, hs, hhonest⟩
    have hrefuses : NoSuccess Success trace :=
      ⟨(hhonest List.mem_cons_self).status, (hhonest List.mem_cons_self).document⟩
    exact ⟨⟨hreturns, hstatus, hdocument, hsilent.mp hs, fun _ ↦ hrefuses⟩, hrefuses⟩
  · rintro ⟨⟨hreturns, hstatus, hdocument, hs, -⟩, hrefuses⟩
    refine ⟨hreturns, hstatus, hdocument, hsilent.mpr hs, fun _ ↦ ?_⟩
    exact ⟨hrefuses.status, hrefuses.document⟩

/-- Nothing is behind the only document of a trace. -/
theorem silent_write (before : List (Event δ)) (other : δ) (after : List (Event δ))
    (htrace : [.write document] = before ++ .write other :: after) : after = [] := by
  cases before with
  | nil => exact (List.cons.inj htrace).2.symm
  | cons first before =>
    exact absurd (List.cons.inj htrace).2.symm
      (List.append_ne_nil_of_right_ne_nil _ (List.cons_ne_nil _ _))

/-- A status and a document. -/
theorem oneResponse_writeHeader {statusCode : ℕ} (hexit : exit ≠ .panicked) :
    OneResponse Success
      (⟨[.writeHeader statusCode, .write document], exit⟩ : Handling δ α) := by
  refine ⟨hexit, ⟨statusCode, rfl⟩, ⟨document, rfl⟩, ?_, fun hmem ↦ ?_⟩
  · exact (silent_cons fun _ ↦ by simp).mpr fun before other after htrace _ ↦
      silent_write before other after htrace
  · simp at hmem

/-- A document without a status before it. -/
theorem oneResponse_write (hexit : exit ≠ .panicked) :
    OneResponse Success (⟨[.write document], exit⟩ : Handling δ α) := by
  refine ⟨hexit, ⟨200, rfl⟩, ⟨document, rfl⟩, ?_, fun hmem ↦ ?_⟩
  · exact fun before other after htrace _ ↦ silent_write before other after htrace
  · simp at hmem

/-- A handler that writes no document has not answered. -/
theorem not_oneResponse_of_documents {m : Handling δ α} (h : documents m.trace = []) :
    ¬ OneResponse Success m := by
  intro hone
  obtain ⟨d, hd⟩ := hone.document
  rw [h] at hd
  exact nomatch hd

/-! ### Rules -/

namespace Handling

variable {answer : GoError → Handling δ Unit}

theorem fail_of_next {trace : List (Event δ)} :
    (fail ⟨trace, .next ()⟩ : Handling δ α) = ⟨.failed :: trace, .returned⟩ :=
  congrArg (fun rest ↦ (⟨.failed :: rest, .returned⟩ : Handling δ α)) (List.append_nil trace)

/-- Nothing of a handler runs behind a failure that was answered. -/
theorem fail_bind (answer : Handling δ Unit) (f : α → Handling δ β) :
    (fail answer : Handling δ α) >>= f = fail answer := by
  rw [fail, fail, bind_assoc]
  congr
  funext _
  rw [bind_assoc]
  rfl

theorem exit_fail_ne (answer : Handling δ Unit) (value : α) :
    (fail answer : Handling δ α).exit ≠ .next value := by
  obtain ⟨trace, exit⟩ := answer
  cases exit with
  | next u => exact fun h ↦ nomatch h
  | returned => exact fun h ↦ nomatch h
  | panicked => exact fun h ↦ nomatch h

/-- A handler gets behind a call when that has a value. -/
theorem exit_orReturn {x : Outcome α} {f : α → Handling δ β} {value : β} :
    (orReturn answer x >>= f).exit = .next value ↔ ∃ a, x = .ok a ∧ (f a).exit = .next value := by
  cases x with
  | ok a =>
    constructor
    · exact fun h ↦ ⟨a, rfl, h⟩
    · rintro ⟨other, hother, h⟩
      exact Outcome.ok.inj hother ▸ h
  | err error =>
    rw [orReturn, fail_bind]
    refine iff_of_false (exit_fail_ne _ value) ?_
    rintro ⟨a, ha, -⟩
    exact nomatch ha
  | panic =>
    refine iff_of_false (fun h ↦ nomatch h) ?_
    rintro ⟨a, ha, -⟩
    exact nomatch ha

theorem mem_trace_bind {m : Handling δ α} {f : α → Handling δ β} {event : Event δ} :
    event ∈ (m >>= f).trace ↔
      event ∈ m.trace ∨ ∃ value, m.exit = .next value ∧ event ∈ (f value).trace := by
  obtain ⟨trace, exit⟩ := m
  cases exit with
  | next value =>
    rw [bind_of_next, List.mem_append]
    refine or_congr_right ⟨fun h ↦ ⟨value, rfl, h⟩, ?_⟩
    rintro ⟨other, hother, h⟩
    exact Exit.next.inj hother ▸ h
  | returned => exact ⟨Or.inl, fun h ↦ h.elim id fun ⟨_, hvalue, _⟩ ↦ nomatch hvalue⟩
  | panicked => exact ⟨Or.inl, fun h ↦ h.elim id fun ⟨_, hvalue, _⟩ ↦ nomatch hvalue⟩

/-- What no answer to an error writes is written behind the call. -/
theorem write_mem_orReturn {x : Outcome α} {f : α → Handling δ β} {document : δ}
    (hanswer : ∀ error, .write document ∉ (answer error).trace) :
    .write document ∈ (orReturn answer x >>= f).trace ↔
      ∃ a, x = .ok a ∧ .write document ∈ (f a).trace := by
  cases x with
  | ok a =>
    constructor
    · exact fun h ↦ ⟨a, rfl, h⟩
    · rintro ⟨other, hother, h⟩
      exact Outcome.ok.inj hother ▸ h
  | err error =>
    rw [orReturn, fail_bind]
    refine iff_of_false (fun h ↦ ?_) fun ⟨_, ha, _⟩ ↦ nomatch ha
    rcases mem_trace_bind.1 h with h | ⟨-, -, h⟩
    · exact nomatch List.mem_singleton.1 h
    · rcases mem_trace_bind.1 h with h | ⟨-, -, h⟩
      · exact hanswer error h
      · exact absurd h List.not_mem_nil
  | panic => exact iff_of_false (fun h ↦ absurd h List.not_mem_nil) fun ⟨_, ha, _⟩ ↦ nomatch ha

/-- A handler panics in a call, in the answer to its error or behind it. -/
theorem panicked_orReturn {x : Outcome α} {f : α → Handling δ β}
    (hanswer : ∀ error, (answer error).exit = .next ()) :
    (orReturn answer x >>= f).exit = .panicked ↔
      x = .panic ∨ ∃ a, x = .ok a ∧ (f a).exit = .panicked := by
  cases x with
  | ok a =>
    constructor
    · exact fun h ↦ Or.inr ⟨a, rfl, h⟩
    · rintro (h | ⟨other, hother, h⟩)
      · exact nomatch h
      · exact Outcome.ok.inj hother ▸ h
  | err error =>
    rw [orReturn, fail_bind]
    refine iff_of_false (fun h ↦ ?_) ?_
    · have hfail : (fail (answer error) : Handling δ β) =
          ⟨.failed :: (answer error).trace, .returned⟩ := by
        rw [← fail_of_next, ← hanswer error]
      exact nomatch (congrArg Handling.exit hfail).symm.trans h
    · rintro (h | ⟨a, ha, -⟩)
      · exact nomatch h
      · exact nomatch ha
  | panic => exact ⟨fun _ ↦ Or.inl rfl, fun _ ↦ rfl⟩

theorem exit_checkOrReturn {condition : Bool} {answer : Handling δ Unit}
    {f : Unit → Handling δ β} {value : β} :
    (checkOrReturn condition answer >>= f).exit = .next value ↔
      condition = true ∧ (f ()).exit = .next value := by
  cases condition with
  | true => exact ⟨fun h ↦ ⟨rfl, h⟩, fun h ↦ h.2⟩
  | false =>
    have hbind : checkOrReturn false answer >>= f = fail answer := fail_bind answer f
    rw [hbind]
    exact iff_of_false (exit_fail_ne _ value) (fun h ↦ nomatch h.1)

theorem oneResponse_orReturn {x : Outcome α} {f : α → Handling δ β} :
    OneResponse Success (orReturn answer x >>= f) ↔
      x ≠ .panic ∧
      (∀ error, x = .err error → OneResponse Success (fail (answer error) : Handling δ β)) ∧
      ∀ value, x = .ok value → OneResponse Success (f value) := by
  cases x with
  | ok value =>
    rw [orReturn, pure_bind]
    constructor
    · intro h
      refine ⟨fun h ↦ (nomatch h), fun _ h ↦ (nomatch h), fun other hother ↦ ?_⟩
      exact Outcome.ok.inj hother ▸ h
    · exact fun h ↦ h.2.2 value rfl
  | err error =>
    rw [orReturn, fail_bind]
    constructor
    · intro h
      refine ⟨fun h ↦ (nomatch h), fun other hother ↦ ?_, fun _ h ↦ (nomatch h)⟩
      exact Outcome.err.inj hother ▸ h
    · exact fun h ↦ h.2.1 error rfl
  | panic => exact iff_of_false (fun h ↦ h.returns rfl) (fun h ↦ h.1 rfl)

theorem oneResponse_checkOrReturn {condition : Bool} {answer : Handling δ Unit}
    {f : Unit → Handling δ β} :
    OneResponse Success (checkOrReturn condition answer >>= f) ↔
      (condition = false → OneResponse Success (fail answer : Handling δ β)) ∧
      (condition = true → OneResponse Success (f ())) := by
  cases condition with
  | true =>
    refine ⟨fun h ↦ ⟨fun h ↦ (nomatch h), fun _ ↦ h⟩, fun h ↦ h.2 rfl⟩
  | false =>
    have hbind : checkOrReturn false answer >>= f = fail answer := fail_bind answer f
    rw [hbind]
    exact ⟨fun h ↦ ⟨fun _ ↦ h, fun h ↦ (nomatch h)⟩, fun h ↦ h.1 rfl⟩

end Handling

end HttpHandler

end YandexPay
