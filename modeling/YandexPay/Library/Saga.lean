import YandexPay.Library.Traverse
import Mathlib.Data.List.Basic

/-!
# Sagas

A run of a generator of `redux-saga` that is not cancelled: the actions that it puts, and whether it
ends with a value or with an error that it throws. A call yields a promise whose outcome is given,
and a promise that the generator does not yield is not waited for. `Settles` is what a request
expects of its saga: it puts one of the actions that settle the request, and only one.
-/

set_option autoImplicit false
set_option relaxedAutoImplicit false

namespace YandexPay

/-! ### Promises -/

section Promise

variable {ε α : Type}

theorem pure_promise (value : α) : (pure value : Except ε α) = .ok value := rfl

end Promise

/-! ### Generators -/

/-- The actions `puts` and the end of a part of a generator. -/
structure Saga (ε A α : Type) where
  puts : List A
  exit : Except ε α

namespace Saga

variable {ε A α β : Type}

protected def bind (m : Saga ε A α) (f : α → Saga ε A β) : Saga ε A β :=
  match m.exit with
  | .ok value => ⟨m.puts ++ (f value).puts, (f value).exit⟩
  | .error e => ⟨m.puts, .error e⟩

instance : Monad (Saga ε A) where
  pure value := ⟨[], .ok value⟩
  bind := Saga.bind

/-- `yield put(action)` -/
def put (action : A) : Saga ε A Unit := ⟨[action], .ok ()⟩

/-- `yield call(..)`, and a call of a plain function. -/
def call (outcome : Except ε α) : Saga ε A α := ⟨[], outcome⟩

/-- `try { body } catch (e) { handler }` -/
def tryCatch (body : Saga ε A α) (handler : ε → Saga ε A α) : Saga ε A α :=
  match body.exit with
  | .ok _ => body
  | .error e => ⟨body.puts ++ (handler e).puts, (handler e).exit⟩

section Simp

variable (f : α → Saga ε A β) (handler : ε → Saga ε A α)

@[simp] theorem puts_put (action : A) : (put action : Saga ε A Unit).puts = [action] := rfl

@[simp] theorem put_bind (action : A) (f : Unit → Saga ε A β) :
    put action >>= f = ⟨action :: (f ()).puts, (f ()).exit⟩ := rfl

@[simp] theorem call_ok_bind (value : α) : call (.ok value) >>= f = f value := rfl

@[simp] theorem call_error_bind (e : ε) : call (.error e) >>= f = ⟨[], .error e⟩ := rfl

@[simp] theorem tryCatch_put (action : A) (handler : ε → Saga ε A Unit) :
    (put action).tryCatch handler = put action := rfl

@[simp] theorem tryCatch_ok (puts : List A) (value : α) :
    (⟨puts, .ok value⟩ : Saga ε A α).tryCatch handler = ⟨puts, .ok value⟩ := rfl

@[simp] theorem tryCatch_error (puts : List A) (e : ε) :
    (⟨puts, .error e⟩ : Saga ε A α).tryCatch handler =
      ⟨puts ++ (handler e).puts, (handler e).exit⟩ := rfl

end Simp

/-- Of the actions that settle a request the saga puts exactly one. -/
def Settles (settles : A → Bool) (saga : Saga ε A α) : Prop :=
  (saga.puts.filter settles).length = 1

end Saga

end YandexPay
