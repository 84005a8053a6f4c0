import Mathlib.Data.List.InsertIdx

/-!
# Requests that write one cell

A client asks a server again and again, and each answer replaces the content of one cell. A request
has a key, and the open ones are kept in the order in which they were made. `newest` is the key of
the cell once the open requests are answered in this order; an answer changes it only when it
answers the request made last.
-/

set_option autoImplicit false
set_option relaxedAutoImplicit false

namespace YandexPay.OpenRequests

variable {κ : Type*}

/-- The key of the request made last, and that of the cell when none is open. -/
def newest (requests : List κ) (cell : Option κ) : Option κ := requests.getLast?.or cell

@[simp] theorem newest_nil (cell : Option κ) : newest [] cell = cell := rfl

@[simp] theorem newest_append_singleton (requests : List κ) (key : κ) (cell : Option κ) :
    newest (requests ++ [key]) cell = some key := by
  rw [newest, List.getLast?_concat]
  rfl

theorem newest_of_ne_nil {requests : List κ} (h : requests ≠ []) (cell cell' : Option κ) :
    newest requests cell = newest requests cell' := by
  obtain ⟨last, hlast⟩ := Option.isSome_iff_exists.mp (List.getLast?_isSome.mpr h)
  rw [newest, newest, hlast]
  rfl

/-- The answer to the oldest request moves its key to the cell. -/
theorem newest_tail (key : κ) (requests : List κ) (cell : Option κ) :
    newest requests (some key) = newest (key :: requests) cell := by
  by_cases h : requests = []
  · subst h
    rfl
  · obtain ⟨last, hlast⟩ := Option.isSome_iff_exists.mp (List.getLast?_isSome.mpr h)
    rw [newest, newest, List.getLast?_cons, hlast]
    rfl

theorem getLast?_eraseIdx_of_lt {requests : List κ} {index : ℕ}
    (h : index + 1 < requests.length) :
    (requests.eraseIdx index).getLast? = requests.getLast? := by
  have hlength : (requests.eraseIdx index).length = requests.length - 1 :=
    List.length_eraseIdx_of_lt (by omega)
  rw [List.getLast?_eq_getElem?, List.getLast?_eq_getElem?, hlength,
    List.getElem?_eraseIdx_of_ge (by omega)]
  congr 1
  omega

/-- The answer to another request than the last one does not matter. -/
theorem newest_eraseIdx_of_lt {requests : List κ} {index : ℕ} (h : index + 1 < requests.length)
    (cell cell' : Option κ) :
    newest (requests.eraseIdx index) cell' = newest requests cell := by
  rw [newest, getLast?_eraseIdx_of_lt h]
  exact newest_of_ne_nil (List.ne_nil_of_length_pos (by omega)) cell' cell

/-- The answer to the last request leaves the one before it. -/
theorem newest_eraseIdx_of_eq {requests : List κ} {index : ℕ} (h : index + 1 = requests.length)
    (cell : Option κ) :
    newest (requests.eraseIdx index) cell = newest requests.dropLast cell := by
  rw [List.eraseIdx_eq_dropLast h]

theorem newest_of_getElem? {requests : List κ} {index : ℕ} (h : index + 1 = requests.length)
    {key : κ} (hkey : requests[index]? = some key) (cell : Option κ) :
    newest requests cell = some key := by
  have hlast : requests.getLast? = some key := by
    rw [List.getLast?_eq_getElem?, ← hkey, ← h, Nat.add_sub_cancel]
  rw [newest, hlast]
  rfl

end YandexPay.OpenRequests
