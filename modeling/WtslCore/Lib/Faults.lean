/-
# Computations that may go wrong

A computation in `Except` whose faults are all of a kind (`FaultsIn`). A
sequence is, if its first part is, and its second part wherever the first one
gets through.

Key definition: `FaultsIn`.
Key theorems: `faultsIn_bind`, `faultsIn_forM`.
-/
import Mathlib.Logic.Basic

namespace WtslCore

variable {ε α β : Type} {p : ε → Prop} {x : Except ε α} {f : α → Except ε β}

/-- Every fault is one of `p`. -/
def FaultsIn (p : ε → Prop) (x : Except ε α) : Prop := ∀ e, x = .error e → p e

@[simp] theorem faultsIn_ok (a : α) : FaultsIn p (.ok a) := nofun

@[simp] theorem faultsIn_pure (a : α) : FaultsIn p (pure a : Except ε α) := faultsIn_ok a

@[simp] theorem faultsIn_error {e : ε} : FaultsIn p (.error e : Except ε α) ↔ p e := by
  constructor
  · intro h
    exact h e rfl
  · rintro h _ ⟨⟩
    exact h

/-- **A sequence goes wrong in its first part or in its second.** -/
theorem faultsIn_bind :
    FaultsIn p (x >>= f) ↔ FaultsIn p x ∧ ∀ a, x = .ok a → FaultsIn p (f a) := by
  cases x with
  | error e =>
    constructor
    · intro h
      exact ⟨fun e' he => h e' (by cases he; rfl), nofun⟩
    · rintro ⟨h, _⟩ _ ⟨⟩
      exact h e rfl
  | ok a =>
    constructor
    · intro h
      refine ⟨nofun, fun b hb => ?_⟩
      cases hb
      exact h
    · intro h
      exact h.2 a rfl

theorem faultsIn_map {g : α → β} : FaultsIn p (x.map g) ↔ FaultsIn p x := by
  cases x with
  | error e => simp [Except.map]
  | ok a => simp [Except.map]

theorem forM_ok {f : α → Except ε Unit} {q : α → Prop} (hok : ∀ a, q a → f a = .ok ()) :
    ∀ {l : List α}, (∀ a ∈ l, q a) → l.forM f = .ok ()
  | [], _ => rfl
  | a :: l, h => by
    obtain ⟨ha, hl⟩ := List.forall_mem_cons.mp h
    show (f a >>= fun _ => l.forM f) = _
    rw [hok a ha]
    exact forM_ok hok hl

/-- A loop whose rounds go wrong as soon as they do not hold goes wrong in the
first one that does not. -/
theorem faultsIn_forM {f : α → Except ε Unit} {q : α → Prop} (hok : ∀ a, q a → f a = .ok ())
    (hfault : ∀ a, FaultsIn p (f a) → q a) :
    ∀ l : List α, FaultsIn p (l.forM f) ↔ ∀ a ∈ l, q a
  | [] => by simp
  | a :: l => by
    show FaultsIn p (f a >>= fun _ => l.forM f) ↔ _
    rw [faultsIn_bind, List.forall_mem_cons]
    constructor
    · rintro ⟨ha, hl⟩
      exact ⟨hfault a ha, (faultsIn_forM hok hfault l).mp (hl () (hok a (hfault a ha)))⟩
    · rintro ⟨ha, hl⟩
      rw [hok a ha]
      exact ⟨faultsIn_ok _, fun _ _ => (faultsIn_forM hok hfault l).mpr hl⟩

end WtslCore
