/-
# Who has a mutex

A mutex is free or has one owner, and of every thread it is known from where it
is in its code whether it has the mutex. The two agree (`Owned`) as long as a
mutex is taken only when it is free and given back only by its owner; then no
two threads are in code that has it (`Owned.exclusive`).

Key definitions: `Owned`.
Key theorems: `Owned.acquire`, `Owned.release`, `Owned.exclusive`.
-/
import Mathlib.Logic.Basic

namespace WtslCore
namespace Monitor

variable {ι : Type*} {m : Option ι} {holds holds' : ι → Prop} {i j : ι}

/-- The owner of a mutex is the thread that is in code which has it. -/
def Owned (m : Option ι) (holds : ι → Prop) : Prop := ∀ i, m = some i ↔ holds i

theorem Owned.exclusive (h : Owned m holds) (hi : holds i) (hj : holds j) : i = j :=
  Option.some.inj (((h i).mpr hi).symm.trans ((h j).mpr hj))

theorem Owned.free (h : Owned none holds) : ¬ holds i := fun hi => nomatch (h i).mpr hi

theorem Owned.congr (h : Owned m holds) (hsame : ∀ i, holds' i ↔ holds i) : Owned m holds' :=
  fun i => (h i).trans (hsame i).symm

/-- A free mutex is taken. -/
theorem Owned.acquire (h : Owned none holds) (hi : holds' i) (hsame : ∀ j, j ≠ i → (holds' j ↔ holds j)) :
    Owned (some i) holds' := by
  intro j
  by_cases hj : j = i
  · subst hj
    exact iff_of_true rfl hi
  · refine iff_of_false (fun heq => hj (Option.some.inj heq).symm) ?_
    rw [hsame j hj]
    exact h.free

/-- Its owner gives it back. -/
theorem Owned.release (h : Owned m holds) (hi : holds i) (hi' : ¬ holds' i)
    (hsame : ∀ j, j ≠ i → (holds' j ↔ holds j)) : Owned none holds' := by
  intro j
  refine iff_of_false nofun fun hj => ?_
  by_cases heq : j = i
  · exact hi' (heq ▸ hj)
  · exact heq (h.exclusive ((hsame j heq).mp hj) hi)

end Monitor
end WtslCore
