/-
# Copies into arrays of fixed size

`strcpy` and `sprintf` write a whole string into an array whose size they do
not know. A copy is a computation with two ways to fail: the source is NULL,
or it does not fit (`CopyFault`). A sequence of copies keeps to its arrays
(`NoOverflow`) if each one does that is reached (`noOverflow_bind`).

Key definitions: `CopyFault`, `strcpy`, `store`, `NoOverflow`.
Key theorems: `noOverflow_bind`, `noOverflow_strcpy`.
-/
import WtslCore.Lib.CStr
import WtslCore.Lib.Faults

namespace WtslCore

/-- What goes wrong in a copy. -/
inductive CopyFault
  | null
  | overflow
  deriving DecidableEq, Repr

/-- A text written into `char dst[n]`, with its terminator. -/
def store (n : ℕ) (s : CStr) : Except CopyFault CStr :=
  if s.length < n then .ok s else .error .overflow

/-- `strcpy` into `char dst[n]`; `none` is NULL. -/
def strcpy (n : ℕ) : Option CStr → Except CopyFault CStr
  | none => .error .null
  | some s => store n (cstr s)

/-- Nothing is written outside the arrays. -/
def NoOverflow {α : Type} (x : Except CopyFault α) : Prop := x ≠ .error .overflow

variable {α β : Type} {x : Except CopyFault α} {f : α → Except CopyFault β}

@[simp] theorem noOverflow_ok (a : α) : NoOverflow (.ok a) := nofun

@[simp] theorem noOverflow_pure (a : α) : NoOverflow (pure a : Except CopyFault α) :=
  noOverflow_ok a

@[simp] theorem noOverflow_null : NoOverflow (.error .null : Except CopyFault α) := nofun

@[simp] theorem not_noOverflow_overflow : ¬ NoOverflow (.error .overflow : Except CopyFault α) :=
  fun h => h rfl

theorem noOverflow_iff : NoOverflow x ↔ FaultsIn (· ≠ .overflow) x := by
  constructor
  · rintro h _ he rfl
    exact h he
  · intro h he
    exact h _ he rfl

/-- **A sequence keeps to its arrays** if its first part does, and its second
part wherever the first one gets through. -/
theorem noOverflow_bind :
    NoOverflow (x >>= f) ↔ NoOverflow x ∧ ∀ a, x = .ok a → NoOverflow (f a) := by
  simp only [noOverflow_iff]
  exact faultsIn_bind

theorem store_eq_ok {n : ℕ} {s t : CStr} : store n s = .ok t ↔ s.length < n ∧ t = s := by
  unfold store
  split_ifs with h
  · simp [h, eq_comm]
  · simp [h]

theorem noOverflow_store {n : ℕ} {s : CStr} : NoOverflow (store n s) ↔ s.length < n := by
  unfold store
  split_ifs with h
  · simp [h]
  · simp [h]

theorem strcpy_eq_ok {n : ℕ} {o : Option CStr} {t : CStr} :
    strcpy n o = .ok t ↔ ∃ s, o = some s ∧ (cstr s).length < n ∧ t = cstr s := by
  cases o with
  | none => simp [strcpy]
  | some s => simp [strcpy, store_eq_ok]

/-- A copy keeps to its array if and only if the string is shorter than the array. -/
theorem noOverflow_strcpy {n : ℕ} {o : Option CStr} :
    NoOverflow (strcpy n o) ↔ ∀ s ∈ o, (cstr s).length < n := by
  cases o with
  | none => simp [strcpy]
  | some s => simp [strcpy, noOverflow_store]

end WtslCore
